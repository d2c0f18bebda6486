import SiteConf.Proofs.Imported

/-!
# The text of a site that was imported from a text

Section by section, the site that the text of a site is imported as has the text of the site.
-/

namespace SiteConf
open Text

theorem orElse_orElse (value fallback : String) : orElse (orElse value fallback) fallback = orElse value fallback := by
  unfold orElse
  by_cases h : value.isEmpty <;> simp [h]

/-! ### File level -/

theorem Upstream.lines_reread (u : Upstream) : u.reread.lines = u.lines := by
  unfold Upstream.reread
  by_cases h : (u.enabled && !u.servers.isEmpty) = true
  · rw [if_pos h]
    unfold Upstream.lines
    dsimp only
    rw [orElse_orElse]
  · rw [if_neg h, Upstream.lines, Upstream.lines, if_neg h]
    rfl

namespace Security

theorem rate_reread {s : Security} (h : s.rateLimiting = true) : s.reread.rate = s.rate := by
  rw [rate, reread]
  dsimp only
  rw [if_pos h, if_pos (rate_pos s)]

theorem burst_reread {s : Security} (h : s.rateLimiting = true) : s.reread.burst = s.burst := by
  have hpos : 0 < s.burst := by
    unfold burst
    split_ifs with hb
    · exact hb
    · decide
  rw [burst, reread]
  dsimp only
  rw [if_pos h, if_pos hpos]

theorem zoneLines_reread (s : Security) : s.reread.zoneLines = s.zoneLines := by
  cases h : s.rateLimiting with
  | false =>
    rw [zoneLines, zoneLines, show s.reread.rateLimiting = s.rateLimiting from rfl, h]
    simp only [Bool.false_eq_true, if_false]
  | true =>
    rw [zoneLines, zoneLines, show s.reread.rateLimiting = s.rateLimiting from rfl, h, rate_reread h]

theorem limitLines_reread (s : Security) : s.reread.limitLines = s.limitLines := by
  cases h : s.rateLimiting with
  | false =>
    rw [limitLines, limitLines, show s.reread.rateLimiting = s.rateLimiting from rfl, h]
    simp only [Bool.false_eq_true, if_false]
  | true =>
    rw [limitLines, limitLines, show s.reread.rateLimiting = s.rateLimiting from rfl, h, burst_reread h]

theorem addressLines_writtenAddresses (name : String) (addresses : List String) :
    addressLines name (Draft.writtenAddresses addresses) = addressLines name addresses := by
  have hfilter : (Draft.writtenAddresses addresses).filter (!isBlankText ·) = Draft.writtenAddresses addresses := by
    rw [List.filter_eq_self]
    intro a ha
    obtain ⟨b, hb, rfl⟩ := List.mem_map.1 ha
    rw [isBlankText_trim]
    exact (List.mem_filter.1 hb).2
  unfold addressLines
  rw [hfilter, Draft.writtenAddresses, List.map_map]
  refine List.map_congr_left fun a _ => ?_
  rw [Function.comp_apply, trim_trim]

theorem lines_reread (s : Security) : s.reread.lines = s.lines := by
  unfold lines
  rw [show s.reread.ipAllowlist = Draft.writtenAddresses s.ipAllowlist from rfl,
    show s.reread.ipDenylist = Draft.writtenAddresses s.ipDenylist from rfl, addressLines_writtenAddresses,
    addressLines_writtenAddresses]
  unfold reread
  dsimp only
  cases s.basicAuth with
  | false => simp only [Bool.false_eq_true, if_false]
  | true =>
    simp only [if_true]
    rw [orElse_orElse, orElse_orElse]

end Security

/-! ### Encryption -/

namespace Ssl

theorem effectiveCiphers_ne_empty (s : Ssl) : s.effectiveCiphers ≠ "" := by
  unfold effectiveCiphers
  split_ifs with h
  · cases s.preset <;> decide
  · simpa using h

theorem effectiveCiphers_settle (s : Ssl) (prefer : Option Bool) :
    (s.settle prefer).effectiveCiphers = s.effectiveCiphers := by
  unfold settle
  split
  · rfl
  · split_ifs
    · rfl
    · have hne : s.effectiveCiphers.isEmpty = false := by simpa using s.effectiveCiphers_ne_empty
      rw [effectiveCiphers, hne]
      rfl
    · have hne : s.effectiveCiphers.isEmpty = false := by simpa using s.effectiveCiphers_ne_empty
      rw [effectiveCiphers, hne]
      rfl

theorem preferServerCiphers_settle (s : Ssl) (prefer : Bool) :
    (s.settle (some prefer)).preset.suite.preferServerCiphers = prefer := by
  unfold settle
  dsimp only
  by_cases h : s.preset.suite.preferServerCiphers = prefer
  · rw [if_pos h, h]
  · rw [if_neg h]
    cases prefer <;> rfl

theorem settle_other (s : Ssl) (prefer : Option Bool) :
    (s.settle prefer).enabled = s.enabled ∧ (s.settle prefer).certificatePath = s.certificatePath ∧
      (s.settle prefer).keyPath = s.keyPath ∧ (s.settle prefer).protocols = s.protocols ∧
      (s.settle prefer).enableHsts = s.enableHsts ∧ (s.settle prefer).enableOcsp = s.enableOcsp ∧
      (s.settle prefer).httpRedirect = s.httpRedirect := by
  unfold settle
  split
  · exact ⟨rfl, rfl, rfl, rfl, rfl, rfl, rfl⟩
  · split_ifs <;> exact ⟨rfl, rfl, rfl, rfl, rfl, rfl, rfl⟩

theorem reread_other {s : Ssl} (h : s.enabled = true) :
    s.reread.enabled = s.enabled ∧ s.reread.certificatePath = orElse s.certificatePath placeholderCertificate ∧
      s.reread.keyPath = orElse s.keyPath placeholderKey ∧ s.reread.protocols = s.protocols ∧
      s.reread.enableHsts = s.enableHsts ∧ s.reread.enableOcsp = s.enableOcsp ∧
      s.reread.httpRedirect = s.httpRedirect := by
  unfold reread
  rw [if_pos h]
  exact ⟨rfl, rfl, rfl, rfl, rfl, rfl, rfl⟩

theorem effectiveCiphers_reread {s : Ssl} (h : s.enabled = true) : s.reread.effectiveCiphers = s.effectiveCiphers := by
  unfold reread
  rw [if_pos h]
  cases hc : CipherProfile.ofCiphers? s.effectiveCiphers with
  | some p =>
    show (CipherProfile.nearest s.effectiveCiphers).suite.ciphers = _
    rw [CipherProfile.nearest, hc]
    exact CipherProfile.ciphers_of_ofCiphers? hc
  | none =>
    have hne : s.effectiveCiphers.isEmpty = false := by simpa using s.effectiveCiphers_ne_empty
    show (if s.effectiveCiphers.isEmpty then _ else s.effectiveCiphers) = _
    rw [hne]
    rfl

theorem lines_congr {s t : Ssl} (he : s.enabled = t.enabled)
    (hcert : orElse s.certificatePath placeholderCertificate = orElse t.certificatePath placeholderCertificate)
    (hkey : orElse s.keyPath placeholderKey = orElse t.keyPath placeholderKey)
    (hprot : s.protocols = t.protocols) (hhsts : s.enableHsts = t.enableHsts) (hocsp : s.enableOcsp = t.enableOcsp)
    (hciphers : s.effectiveCiphers = t.effectiveCiphers)
    (hprefer : s.preset.suite.preferServerCiphers = t.preset.suite.preferServerCiphers) :
    s.lines = t.lines := by
  have htime : ∀ p : CipherProfile, p.suite.sessionTimeout = "1d" ∧ p.suite.sessionTickets = false := by
    intro p
    cases p <;> exact ⟨rfl, rfl⟩
  unfold lines
  dsimp only
  rw [he, hcert, hkey, hprot, hhsts, hocsp, hciphers, hprefer, (htime s.preset).1, (htime s.preset).2,
    (htime t.preset).1, (htime t.preset).2]

theorem lines_settle_reread (s : Ssl) :
    (s.reread.settle (if s.enabled then some s.preset.suite.preferServerCiphers else none)).lines = s.lines := by
  cases h : s.enabled with
  | false =>
    have hblank : s.reread = Site.blank.ssl := by
      rw [reread, h]
      exact if_neg Bool.false_ne_true
    rw [hblank, lines, lines, h, if_neg Bool.false_ne_true, if_neg Bool.false_ne_true]
    exact if_neg Bool.false_ne_true
  | true =>
    rw [if_pos rfl]
    obtain ⟨he, hc, hk, hp, hh, ho, -⟩ := s.reread.settle_other (some s.preset.suite.preferServerCiphers)
    obtain ⟨he', hc', hk', hp', hh', ho', -⟩ := reread_other h
    refine lines_congr (he.trans he') ?_ ?_ (hp.trans hp') (hh.trans hh') (ho.trans ho') ?_ ?_
    · rw [hc, hc', orElse_orElse]
    · rw [hk, hk', orElse_orElse]
    · rw [effectiveCiphers_settle, effectiveCiphers_reread h]
    · rw [preferServerCiphers_settle]

end Ssl

/-! ### Compression and connections -/

namespace Performance

theorem effectiveGzipTypes_ne_nil (p : Performance) : p.effectiveGzipTypes ≠ [] := by
  unfold effectiveGzipTypes
  split_ifs with h
  · decide
  · simpa using h

theorem effectiveBrotliTypes_ne_nil (p : Performance) : p.effectiveBrotliTypes ≠ [] := by
  unfold effectiveBrotliTypes
  split_ifs with h
  · exact p.effectiveGzipTypes_ne_nil
  · simpa using h

theorem settleCaching_other (p : Performance) (caching : List (AssetClass × String)) :
    (p.settleCaching caching).lines = p.lines ∧ (p.settleCaching caching).http2 = p.http2 := by
  unfold settleCaching
  split <;> exact ⟨rfl, rfl⟩

theorem effectiveBrotliTypes_settleBrotli (p : Performance) {types : List String} (h : types ≠ []) :
    (p.settleBrotli (some types)).effectiveBrotliTypes = types := by
  have hne : types.isEmpty = false := by simpa using h
  show (if (if types = p.effectiveGzipTypes then [] else types).isEmpty then p.effectiveGzipTypes
    else if types = p.effectiveGzipTypes then [] else types) = types
  by_cases ht : types = p.effectiveGzipTypes
  · rw [if_pos ht, ht]
    rfl
  · rw [if_neg ht, hne]
    rfl

theorem settleBrotli_other (p : Performance) (types : Option (List String)) :
    (p.settleBrotli types).gzip = p.gzip ∧ (p.settleBrotli types).effectiveGzipTypes = p.effectiveGzipTypes ∧
      (p.settleBrotli types).brotli = p.brotli ∧ (p.settleBrotli types).http2 = p.http2 ∧
      (p.settleBrotli types).clientMaxBodySize = p.clientMaxBodySize ∧
      (p.settleBrotli types).clientMaxBodyUnit = p.clientMaxBodyUnit ∧
      (p.settleBrotli types).keepaliveTimeout = p.keepaliveTimeout := by
  cases types <;> exact ⟨rfl, rfl, rfl, rfl, rfl, rfl, rfl⟩

theorem lines_congr {p q : Performance} (hg : p.gzip = q.gzip)
    (hgtypes : q.gzip = true → p.effectiveGzipTypes = q.effectiveGzipTypes) (hb : p.brotli = q.brotli)
    (hbtypes : q.brotli = true → p.effectiveBrotliTypes = q.effectiveBrotliTypes)
    (hsize : p.clientMaxBodySize = if 0 < q.clientMaxBodySize then q.clientMaxBodySize else 0)
    (hunit : 0 < q.clientMaxBodySize → p.clientMaxBodyUnit = q.clientMaxBodyUnit)
    (hkeep : p.keepaliveTimeout = if 0 < q.keepaliveTimeout then q.keepaliveTimeout else 0) :
    p.lines = q.lines := by
  have htypes : ∀ p : Performance, (if p.brotliTypes.isEmpty then p.effectiveGzipTypes else p.brotliTypes) =
      p.effectiveBrotliTypes := fun _ => rfl
  unfold lines
  rw [htypes p, htypes q, hg, hb, hsize, hkeep]
  congr 1
  congr 1
  · congr 1
    · congr 1
      · cases hq : q.gzip with
        | false => rfl
        | true => rw [hgtypes hq]
      · cases hq : q.brotli with
        | false => rfl
        | true => rw [hbtypes hq]
    · by_cases hq : 0 < q.clientMaxBodySize
      · rw [if_pos hq, if_pos hq, if_pos hq, hunit hq]
      · rw [if_neg hq, if_neg hq, if_neg (by decide)]
  · by_cases hq : 0 < q.keepaliveTimeout
    · rw [if_pos hq]
    · rw [if_neg hq, if_neg hq, if_neg (by decide)]

end Performance

theorem Site.lines_rereadPerformance (s : Site) :
    (s.rereadPerformance.settleBrotli s.draft.brotliTypes).lines = s.performance.lines := by
  obtain ⟨hg, hgt, hb, -, hsize, hunit, hkeep⟩ := s.rereadPerformance.settleBrotli_other s.draft.brotliTypes
  refine Performance.lines_congr hg (fun h => ?_) hb (fun h => ?_) hsize (fun h => ?_) hkeep
  · have hne : s.performance.effectiveGzipTypes.isEmpty = false := by
      simpa using s.performance.effectiveGzipTypes_ne_nil
    rw [hgt, Performance.effectiveGzipTypes, Site.rereadPerformance]
    dsimp only
    rw [if_pos h, hne]
    rfl
  · rw [show s.draft.brotliTypes = some s.performance.effectiveBrotliTypes from if_pos h]
    exact Performance.effectiveBrotliTypes_settleBrotli _ s.performance.effectiveBrotliTypes_ne_nil
  · rw [hunit]
    exact if_pos h

/-! ### Logs -/

theorem Logging.lines_reread (l : Logging) : l.reread.lines = l.lines := by
  have htarget : ∀ l : Logging, (if l.accessLog then orElse l.accessLogPath "/var/log/nginx/access.log" else "off") =
      l.accessTarget := fun _ => rfl
  have haccess : l.reread.accessTarget = l.accessTarget := by
    by_cases h : l.accessTarget = "off"
    · rw [Logging.accessTarget, Logging.reread]
      dsimp only
      rw [if_pos h, h]
      rfl
    · have hlog : l.accessLog = true := by
        by_contra hno
        exact h (if_neg hno)
      rw [Logging.accessTarget, Logging.reread]
      dsimp only
      rw [if_neg h, if_neg h, if_pos rfl, Logging.accessTarget, if_pos hlog, orElse_orElse]
  unfold Logging.lines
  rw [htarget, htarget, haccess, Logging.reread]
  cases l.errorLog with
  | false => simp only [Bool.false_eq_true, if_false]
  | true =>
    simp only [if_true, Logging.errorTarget]
    rw [orElse_orElse]

/-! ### Bodies of locations -/

theorem canonicalLines_of_errors {text : String} (h : (Tree.ofText text).errors = []) :
    canonicalLines text = serialize 0 (Tree.ofText text).nodes := by
  unfold canonicalLines
  dsimp only
  rw [h]
  rfl

theorem nodes_ofText_of_blank {text : String} (h : isBlankText text = true) : (Tree.ofText text).nodes = [] := by
  have hall : ∀ c ∈ text.toList, isBlank c = true := List.all_eq_true.1 h
  have hblanks : ReadsAs text.toList [] := by simpa using readsAs_nil.blanks hall
  have hwrites : Writes true [text] [] := ⟨[], .singleton hblanks, .nil⟩
  have hlines : text = joinLines [text] := rfl
  have hnodes := (hwrites.ofText (.inl hlines)).2
  rw [withoutLines_eq_map] at hnodes
  simpa [withoutLines] using hnodes

namespace Location

theorem fileLines_rereadFiles (l : Location) : l.rereadFiles.fileLines = l.fileLines := by
  unfold fileLines rereadFiles
  simp only [isBlankText_joinWith_words, words_joinWith_words]

theorem body_asText {l : Location} (realIp : Bool) (hk : l.kind = .custom) (h : l.LegibleBody) :
    (asText l.path l.matchType (l.bodyNodes realIp)).body realIp = l.body realIp := by
  unfold LegibleBody at h
  rw [hk] at h
  unfold body bodyNodes
  rw [hk]
  show (if isBlankText (joinLines (serialize 0 _)) then [] else canonicalLines (joinLines (serialize 0 _))) = _
  by_cases hb : isBlankText l.customDirectives = true
  · dsimp only
    rw [if_pos hb, if_pos hb]
    rfl
  · obtain ⟨herrors, hlegible⟩ := h (by simpa using hb)
    obtain ⟨herrors', hnodes⟩ := (writes_serialize 0 _ hlegible).ofText (.inl rfl)
    dsimp only
    have hcanonical : canonicalLines (joinLines (serialize 0 (Tree.ofText l.customDirectives).nodes)) =
        canonicalLines l.customDirectives := by
      rw [canonicalLines_of_errors herrors, canonicalLines_of_errors herrors', serialize_congr hnodes 0]
    rw [if_neg hb, if_neg hb, hcanonical]
    split_ifs with hblank
    · have hnil : (Tree.ofText l.customDirectives).nodes = [] := by
        rw [nodes_ofText_of_blank hblank, withoutLines_eq_map, withoutLines_eq_map] at hnodes
        exact List.map_eq_nil_iff.1 hnodes.symm
      rw [canonicalLines_of_errors herrors, hnil]
      rfl
    · rfl

/-- The upgrade headers of the location itself do not come before the ones that are written for its flag. -/
def KeepsUpgrade (realIp : Bool) (l : Location) : Prop :=
  l.kind = .proxy → l.ownHeaders.take 2 = upgradeHeaders → l.proxyWebSocket = true ∨ realIp = true

/-- Such a location is read with its own flag, and with the headers of the site before its own. -/
theorem rereadProxy_eq {realIp : Bool} {l : Location}
    (h : l.ownHeaders.take 2 = upgradeHeaders → l.proxyWebSocket = true ∨ realIp = true) :
    l.rereadProxy realIp = { l.settledProxy realIp with
      proxyWebSocket := l.proxyWebSocket
      proxyHeaders := (if realIp then forwardingHeaders else []) ++ l.ownHeaders } := by
  unfold rereadProxy liftUpgrade settledProxy writtenHeaders
  cases hw : l.proxyWebSocket with
  | true =>
    dsimp only
    rw [if_pos rfl, List.append_assoc]
    exact if_pos rfl
  | false =>
    cases realIp with
    | true =>
      rw [if_neg]
      · rfl
      · exact (by decide : ¬forwardingHeaders.take 2 = upgradeHeaders)
    | false =>
      rw [if_neg]
      · rfl
      · intro hown
        rcases h hown with h | h
        · rw [hw] at h
          cases h
        · cases h

/-- The lines of a proxy location, with the headers of the site and its own ones as one list. -/
theorem proxyLines_eq (realIp : Bool) (l : Location) : l.proxyLines realIp =
    [if l.proxyPass.isEmpty then "proxy_pass;" else directiveLine "proxy_pass" [l.proxyPass],
      directiveLine "proxy_http_version" ["1.1"]] ++
    (if l.proxyWebSocket then
      [directiveLine "proxy_set_header" ["Upgrade", "$http_upgrade"],
        "proxy_set_header Connection \"upgrade\";"] else []) ++
    ((if realIp then forwardingHeaders else []) ++ l.ownHeaders).map headerLine ++
    (if 0 < l.proxyTimeout then
      [directiveLine "proxy_read_timeout" [toString l.proxyTimeout ++ "s"],
        directiveLine "proxy_send_timeout" [toString l.proxyTimeout ++ "s"]] else []) ++
    (if l.proxyBuffering then [] else [directiveLine "proxy_buffering" ["off"]]) := by
  rw [List.map_append, ← List.append_assoc]
  cases realIp <;> rfl

theorem proxyLines_congr {l m : Location} {realIp realIp' : Bool} (hpass : l.proxyPass = m.proxyPass)
    (hw : l.proxyWebSocket = m.proxyWebSocket)
    (hheaders : (if realIp then forwardingHeaders else []) ++ l.ownHeaders =
      (if realIp' then forwardingHeaders else []) ++ m.ownHeaders)
    (ht : l.proxyTimeout = if 0 < m.proxyTimeout then m.proxyTimeout else 0)
    (hb : l.proxyBuffering = m.proxyBuffering) : l.proxyLines realIp = m.proxyLines realIp' := by
  rw [proxyLines_eq, proxyLines_eq, hpass, hw, hheaders, hb, ht]
  by_cases h : 0 < m.proxyTimeout
  · rw [if_pos h]
  · rw [if_neg h, if_neg h]
    rfl

/-! ### Which headers are those of the site -/

theorem isWritten_of_mem {realIp : Bool} {l : Location} :
    ∀ x ∈ (if realIp then forwardingHeaders else []) ++ l.ownHeaders,
      (!x.key.isEmpty && !x.value.isEmpty) = true := by
  have hforwarding : ∀ x ∈ forwardingHeaders, (!x.key.isEmpty && !x.value.isEmpty) = true := by decide
  intro x hx
  rcases List.mem_append.1 hx with hx | hx
  · split_ifs at hx
    · exact hforwarding x hx
    · simp at hx
  · exact (List.mem_filter.1 hx).2

theorem proxyLines_rereadProxy {realIp : Bool} {l : Location}
    (h : l.ownHeaders.take 2 = upgradeHeaders → l.proxyWebSocket = true ∨ realIp = true) :
    (l.rereadProxy realIp).proxyLines false = l.proxyLines realIp := by
  rw [rereadProxy_eq h]
  refine proxyLines_congr rfl rfl ?_ rfl rfl
  exact List.filter_eq_self.2 isWritten_of_mem

theorem proxyLines_dropForwarding {realIp : Bool} {l : Location}
    (h : l.ownHeaders.take 2 = upgradeHeaders → l.proxyWebSocket = true ∨ realIp = true)
    (hs : (l.rereadProxy realIp).startsWithForwarding = true) :
    (l.rereadProxy realIp).dropForwarding.proxyLines true = l.proxyLines realIp := by
  rw [rereadProxy_eq h] at hs ⊢
  have htake : ((if realIp then forwardingHeaders else []) ++ l.ownHeaders).take forwardingHeaders.length =
      forwardingHeaders := by
    simpa [startsWithForwarding] using hs
  refine proxyLines_congr rfl rfl ?_ rfl rfl
  show forwardingHeaders ++ (((if realIp then forwardingHeaders else []) ++ l.ownHeaders).drop
    forwardingHeaders.length).filter _ = _
  rw [List.filter_eq_self.2 fun x hx => isWritten_of_mem x (List.mem_of_mem_drop hx)]
  exact (congrArg (· ++ _) htake.symm).trans (List.take_append_drop _ _)

theorem target_settled (l : Location) (realIp drop : Bool) :
    (if drop then (l.reread realIp).dropForwarding else l.reread realIp).matchType = l.matchType ∧
      (if drop then (l.reread realIp).dropForwarding else l.reread realIp).path = l.path := by
  cases drop with
  | false => exact ⟨matchType_reread realIp l, path_reread realIp l⟩
  | true =>
    rw [if_pos rfl, matchType_dropForwarding, path_dropForwarding]
    exact ⟨matchType_reread realIp l, path_reread realIp l⟩

/-- A location that is read back has the lines of the location, whether or not the headers about the
client become those of the site. -/
theorem body_settled {l : Location} {realIp : Bool} (hl : l.LegibleBody) (h : l.KeepsUpgrade realIp)
    {drop : Bool} (hd : drop = true → l.kind = .proxy → (l.reread realIp).startsWithForwarding = true) :
    (if drop then (l.reread realIp).dropForwarding else l.reread realIp).body drop = l.body realIp := by
  have hother : l.kind ≠ .proxy →
      (if drop then (l.reread realIp).dropForwarding else l.reread realIp) = l.reread realIp := by
    intro hk
    split_ifs
    · rw [dropForwarding, kind_reread, if_neg hk]
    · rfl
  cases hk : l.kind with
  | files =>
    rw [hother (by simp [hk]), body, kind_reread, body, hk, reread, hk]
    exact l.fileLines_rereadFiles
  | redirect =>
    rw [hother (by simp [hk]), body, kind_reread, body, hk, reread, hk]
    rfl
  | custom =>
    rw [hother (by simp [hk]), ← body_asText realIp hk hl, reread, hk]
    rfl
  | proxy =>
    have hreread : l.reread realIp = l.rereadProxy realIp := by rw [reread, hk]
    rw [hreread] at hd ⊢
    cases drop with
    | false =>
      rw [if_neg (by simp), body, body, hk, ← hreread, kind_reread, hk, hreread]
      exact proxyLines_rereadProxy (h hk)
    | true =>
      have hkind : (l.rereadProxy realIp).dropForwarding.kind = .proxy := by
        rw [← hreread, kind_dropForwarding, kind_reread, hk]
      rw [if_pos rfl, body, body, hk, hkind]
      exact proxyLines_dropForwarding (h hk) (hd rfl hk)

end Location

/-! ### Expiries -/

theorem lookup_spelled (as : List AssetClass) (f : AssetClass → String) (a : AssetClass) :
    (as.map fun b => (spell b, f b)).lookup (spell a) = if a ∈ as then some (f a) else none := by
  induction as with
  | nil => rfl
  | cons b bs ih =>
    rw [List.map_cons, List.lookup_cons, ih]
    by_cases h : a = b
    · rw [h]
      simp
    · have hspell : (spell a == spell b) = false := by
        rw [beq_eq_false_iff_ne]
        exact fun hs => h (Keyword.spell_inj hs)
      rw [hspell]
      simp [h]

theorem Performance.assetExpiry_settleCaching (p : Performance) {as : List AssetClass} {f : AssetClass → String}
    (hf : ∀ a ∈ as, f a ≠ "") {a : AssetClass} (ha : a ∈ as) :
    (p.settleCaching (as.map fun a => (a, f a))).assetExpiry a = f a := by
  cases as with
  | nil => simp at ha
  | cons b bs =>
    have hbase : baseExpiry ((b :: bs).map fun a => (a, f a)) (f b) ≠ "" := by
      unfold baseExpiry
      split_ifs with h
      · exact hf b (by simp)
      · simpa using h
    show orElse ((((((b :: bs).map fun a => (a, f a)).filter fun e =>
      e.2 != baseExpiry ((b :: bs).map fun a => (a, f a)) (f b)).map fun e => (spell e.1, e.2)).lookup
        (spell a)).getD "") (orElse (baseExpiry ((b :: bs).map fun a => (a, f a)) (f b)) "30d") = f a
    generalize baseExpiry ((b :: bs).map fun a => (a, f a)) (f b) = base at hbase
    have hfilter : (((b :: bs).map fun a => (a, f a)).filter fun e => e.2 != base).map (fun e => (spell e.1, e.2)) =
        ((b :: bs).filter fun a => f a != base).map fun a => (spell a, f a) := by
      rw [List.filter_map, List.map_map]
      rfl
    rw [hfilter, lookup_spelled]
    by_cases h : f a = base
    · have hne : base.isEmpty = false := by simpa using hbase
      rw [if_neg (by simp [h]), h]
      show orElse base "30d" = base
      rw [orElse, hne]
      rfl
    · rw [if_pos (List.mem_filter.2 ⟨ha, by simpa using h⟩), orElse]
      exact if_neg (by simpa using hf a ha)

/-- The extensions that the pattern of a location names. -/
def Location.claimedExtensions (l : Location) : List String :=
  if l.matchType = .regex ∨ l.matchType = .regexIgnoreCase then (patternExtensions (lower l.path)).map .ofList
  else []

theorem Location.claimedExtensions_congr {l m : Location} (ht : l.matchType = m.matchType) (hp : l.path = m.path) :
    l.claimedExtensions = m.claimedExtensions := by
  rw [claimedExtensions, ht, hp, claimedExtensions]

/-! ### The site that is read back -/

namespace Site
variable {s : Site}

/-- The locations as they are read, before it is settled whose the headers about the client are. -/
def rereadLocations (s : Site) : List Location :=
  s.effectiveLocations.map (Location.reread s.reverseProxy.realIpHeaders)

/-- What settling makes of the draft of a site. -/
theorem reimported_eq (s : Site) : s.reimported = { s.draft.site with
    ssl := s.ssl.reread.settle s.draft.preferServerCiphers
    performance := (s.rereadPerformance.settleBrotli s.draft.brotliTypes).settleCaching s.draft.caching
    reverseProxy := ({} : ReverseProxy).settle s.draft.rootSeen s.rereadLocations
    locations := settleLocations s.rereadLocations } := by
  rw [reimported, Draft.finish_eq]
  rfl

theorem security_reimported (s : Site) : s.reimported.security = s.security.reread := by
  rw [reimported_eq]
  rfl

/-- Without proxy locations the headers are those of the site, as they are by default. -/
theorem realIpHeaders_settle (rootSeen : Bool) (ls : List Location) :
    (({} : ReverseProxy).settle rootSeen ls).realIpHeaders = forwards ls := by
  unfold ReverseProxy.settle
  split
  · next h => rw [forwards, h]; rfl
  · split_ifs <;> rfl

theorem realIpHeaders_reimported (s : Site) :
    s.reimported.reverseProxy.realIpHeaders = forwards s.rereadLocations := by
  rw [reimported_eq]
  exact realIpHeaders_settle _ _

theorem settleLocations_rereadLocations (s : Site) : settleLocations s.rereadLocations =
    s.effectiveLocations.map fun l => if forwards s.rereadLocations then
      (l.reread s.reverseProxy.realIpHeaders).dropForwarding else l.reread s.reverseProxy.realIpHeaders := by
  unfold settleLocations
  cases forwards s.rereadLocations <;> simp [rereadLocations]

theorem effectiveLocations_reimported (s : Site) :
    s.reimported.effectiveLocations = settleLocations s.rereadLocations := by
  have hne : (settleLocations s.rereadLocations).isEmpty = false := by
    rw [settleLocations_rereadLocations]
    simpa using effectiveLocations_ne_nil s
  rw [reimported_eq, effectiveLocations, hne]
  rfl

theorem startsWithForwarding_of_forwards (hf : forwards s.rereadLocations = true) {l : Location}
    (hl : l ∈ s.effectiveLocations) (hk : l.kind = .proxy) :
    (l.reread s.reverseProxy.realIpHeaders).startsWithForwarding = true := by
  refine List.all_eq_true.1 hf _ (List.mem_filter.2 ⟨List.mem_map_of_mem hl, ?_⟩)
  rw [Location.kind_reread, hk]
  rfl

theorem locationSection_reimported (hl : ∀ l ∈ s.effectiveLocations, l.LegibleBody)
    (hk : ∀ l ∈ s.effectiveLocations, l.KeepsUpgrade s.reverseProxy.realIpHeaders) :
    s.reimported.locationSection = s.locationSection := by
  have hlines : ∀ l ∈ s.effectiveLocations, s.reimported.locationLines (if forwards s.rereadLocations then
      (l.reread s.reverseProxy.realIpHeaders).dropForwarding else l.reread s.reverseProxy.realIpHeaders) =
        s.locationLines l := by
    intro l hmem
    have hstarts : forwards s.rereadLocations = true → l.kind = .proxy →
        (l.reread s.reverseProxy.realIpHeaders).startsWithForwarding = true := fun hf hkind =>
      startsWithForwarding_of_forwards hf hmem hkind
    obtain ⟨hmatch, hpath⟩ := l.target_settled s.reverseProxy.realIpHeaders (forwards s.rereadLocations)
    unfold locationLines
    rw [realIpHeaders_reimported, security_reimported, Security.limitLines_reread,
      Location.body_settled (hl l hmem) (hk l hmem) hstarts, hmatch, hpath]
  unfold locationSection
  rw [effectiveLocations_reimported, settleLocations_rereadLocations, List.map_map]
  exact congrArg (fun sections => banner "Location Blocks" :: joinSections sections)
    (List.map_congr_left hlines)

theorem sslEnabled_reimported (s : Site) : s.reimported.ssl.enabled = s.ssl.enabled := by
  rw [reimported_eq]
  show (s.ssl.reread.settle s.draft.preferServerCiphers).enabled = _
  rw [(Ssl.settle_other _ _).1]
  unfold Ssl.reread
  cases s.ssl.enabled <;> rfl

theorem listenFlags_reimported (s : Site) : s.reimported.listenFlags = s.listenFlags := by
  have hhttp2 : s.reimported.performance.http2 = (s.ssl.enabled && s.performance.http2) := by
    rw [reimported_eq]
    show ((s.rereadPerformance.settleBrotli s.draft.brotliTypes).settleCaching s.draft.caching).http2 = _
    rw [(Performance.settleCaching_other _ _).2, (Performance.settleBrotli_other _ _).2.2.2.1]
    rfl
  unfold listenFlags
  rw [sslEnabled_reimported, hhttp2]
  cases s.ssl.enabled <;> rfl

theorem enabled_reimported (h : s.fileNodes ≠ []) : s.reimported.reverseProxy.enabled = false := by
  have hseen : s.draft.rootSeen = true := by
    simpa [draft] using h
  rw [reimported_eq]
  show (({} : ReverseProxy).settle s.draft.rootSeen s.rereadLocations).enabled = false
  unfold ReverseProxy.settle
  split
  · rfl
  · rw [if_pos hseen]

theorem headLines_reimported (s : Site) : s.reimported.headLines = s.headLines := by
  have hroot : s.reimported.rootPath = if s.reverseProxy.enabled then "" else s.rootPath := by
    rw [reimported_eq]
    rfl
  have hindex : s.reimported.indexFiles = if s.reverseProxy.enabled then [] else s.indexFiles := by
    rw [reimported_eq]
    rfl
  have hfiles : (if s.reimported.reverseProxy.enabled then [] else
      (if s.reimported.rootPath.isEmpty then [] else [directiveLine "root" [s.reimported.rootPath]]) ++
      (if s.reimported.indexFiles.isEmpty then [] else [directiveLine "index" s.reimported.indexFiles])) =
      (if s.reverseProxy.enabled then [] else
      (if s.rootPath.isEmpty then [] else [directiveLine "root" [s.rootPath]]) ++
      (if s.indexFiles.isEmpty then [] else [directiveLine "index" s.indexFiles])) := by
    rw [hroot, hindex]
    by_cases hnodes : s.fileNodes = []
    · unfold fileNodes at hnodes
      cases hp : s.reverseProxy.enabled with
      | true => cases s.reimported.reverseProxy.enabled <;> rfl
      | false =>
        rw [hp] at hnodes
        simp only [Bool.false_eq_true, if_false, List.append_eq_nil_iff, ite_eq_left_iff, reduceCtorEq, imp_false,
          not_not] at hnodes
        simp only [Bool.false_eq_true, if_false, hnodes.1, hnodes.2, if_true, List.append_nil, ite_self]
    · rw [enabled_reimported hnodes]
      cases hp : s.reverseProxy.enabled with
      | true => exact absurd (by rw [fileNodes, hp]; rfl) hnodes
      | false => rfl
  unfold headLines
  rw [hfiles, listenFlags_reimported, reimported_eq]
  rfl

theorem httpsRedirectLines_reimported (s : Site) : s.reimported.httpsRedirectLines = s.httpsRedirectLines := by
  unfold httpsRedirectLines
  rw [sslEnabled_reimported]
  cases he : s.ssl.enabled with
  | false => rfl
  | true =>
    have hredirect : s.reimported.ssl.httpRedirect = s.ssl.httpRedirect := by
      rw [reimported_eq]
      show (s.ssl.reread.settle s.draft.preferServerCiphers).httpRedirect = _
      rw [(Ssl.settle_other _ _).2.2.2.2.2.2, (Ssl.reread_other he).2.2.2.2.2.2]
    rw [hredirect, reimported_eq]
    rfl

/-! ### Static caching -/

/-- No location claims more than it did: a claim needs a match type and a path only. -/
theorem claimedExtensions_reimported (s : Site) : s.reimported.claimedExtensions = s.claimedExtensions := by
  have hself : s.claimedExtensions = s.effectiveLocations.flatMap Location.claimedExtensions := by
    unfold claimedExtensions effectiveLocations
    split_ifs with hl
    · rw [List.isEmpty_iff.1 hl]
      rfl
    · rw [List.isEmpty_iff.1 hl]
      rfl
    · rfl
  have hother : s.reimported.claimedExtensions =
      (settleLocations s.rereadLocations).flatMap Location.claimedExtensions := by
    rw [reimported_eq]
    rfl
  rw [hself, hother, settleLocations_rereadLocations, List.flatMap_map]
  refine List.flatMap_congr fun l _ => Location.claimedExtensions_congr ?_ ?_
  · split_ifs <;> simp
  · split_ifs <;> simp

theorem staticCaching_reimported (s : Site) : s.reimported.performance.staticCaching = !s.servedAssets.isEmpty := by
  rw [reimported_eq]
  show ((s.rereadPerformance.settleBrotli s.draft.brotliTypes).settleCaching
    (s.servedAssets.map fun a => (a, Draft.writtenExpiry s.performance a))).staticCaching = _
  cases s.servedAssets with
  | nil =>
    show (s.rereadPerformance.settleBrotli s.draft.brotliTypes).staticCaching = _
    cases s.draft.brotliTypes <;> rfl
  | cons => rfl

theorem servedAssets_reimported (s : Site) : s.reimported.servedAssets = s.servedAssets := by
  have hserves : s.reimported.servesAssets = s.servesAssets := by
    funext a
    rw [servesAssets, servesAssets, claimedExtensions_reimported]
  by_cases h : s.servedAssets = []
  · rw [h, servedAssets, staticCaching_reimported, h]
    rfl
  · have hcaching : s.performance.staticCaching = true := by
      by_contra hno
      exact h (if_neg hno)
    have hne : s.servedAssets.isEmpty = false := by simpa using h
    rw [servedAssets, staticCaching_reimported, hne, hserves, servedAssets, if_pos hcaching]
    rfl

theorem words_assetExpiry_reimported {a : AssetClass} (ha : a ∈ s.servedAssets)
    (hw : ∀ a ∈ s.servedAssets, isBlankText (s.performance.assetExpiry a) = false) :
    words (s.reimported.performance.assetExpiry a) = words (s.performance.assetExpiry a) := by
  have hne : ∀ a ∈ s.servedAssets, Draft.writtenExpiry s.performance a ≠ "" := by
    intro a ha h
    have hblank := Location.isBlankText_joinWith_words (s.performance.assetExpiry a)
    rw [hw a ha, show joinWith " " (words (s.performance.assetExpiry a)) = "" from h] at hblank
    exact absurd hblank (by decide)
  rw [reimported_eq]
  show words (((s.rereadPerformance.settleBrotli s.draft.brotliTypes).settleCaching
    (s.servedAssets.map fun a => (a, Draft.writtenExpiry s.performance a))).assetExpiry a) = _
  rw [Performance.assetExpiry_settleCaching _ hne ha]
  exact words_joinWith_words _

theorem cachingSection_eq (s : Site) : s.cachingSection =
    titled "Static File Caching" (joinSections (s.servedAssets.map s.performance.assetLines)) := by
  unfold cachingSection servedAssets
  split_ifs <;> rfl

theorem cachingSection_reimported (hw : ∀ a ∈ s.servedAssets, isBlankText (s.performance.assetExpiry a) = false) :
    s.reimported.cachingSection = s.cachingSection := by
  have hlines : ∀ a ∈ s.servedAssets, s.reimported.performance.assetLines a = s.performance.assetLines a := by
    intro a ha
    unfold Performance.assetLines
    rw [words_assetExpiry_reimported ha hw]
  rw [cachingSection_eq, cachingSection_eq, servedAssets_reimported, List.map_congr_left hlines]

/-! ### The whole text -/

/-- A text that was written for a site, imported and written again is the same text. -/
theorem render_reimported (hl : s.Legible) (hr : s.Readable) (hc : isBlankText s.customDirectives = true)
    (hk : ∀ l ∈ s.effectiveLocations, l.KeepsUpgrade s.reverseProxy.realIpHeaders) :
    s.reimported.render = s.render := by
  have hupstream : s.reimported.upstream.lines = s.upstream.lines := by
    rw [reimported_eq]
    exact s.upstream.lines_reread
  have hssl : s.reimported.ssl.lines = s.ssl.lines := by
    rw [reimported_eq]
    exact s.ssl.lines_settle_reread
  have hperformance : s.reimported.performance.lines = s.performance.lines := by
    rw [reimported_eq]
    exact (Performance.settleCaching_other _ _).1.trans s.lines_rereadPerformance
  have hlogging : s.reimported.logging.lines = s.logging.lines := by
    rw [reimported_eq]
    exact s.logging.lines_reread
  have hcustom : s.reimported.customSection = s.customSection := by
    rw [reimported_eq, customSection, customSection, if_pos hc]
    rfl
  have hserver : s.reimported.serverLines = s.serverLines := by
    unfold serverLines
    rw [headLines_reimported, hssl, security_reimported, Security.lines_reread, hperformance, hlogging,
      locationSection_reimported (fun l h => (hl.locations l h).2) hk, cachingSection_reimported hr.caching, hcustom]
  unfold render
  rw [hupstream, security_reimported, Security.zoneLines_reread, httpsRedirectLines_reimported, hserver]

end Site
end SiteConf
