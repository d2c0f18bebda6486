import SiteConf.Lint.Report
import SiteConf.Proofs.Fixpoint

/-!
# What a report says can be fixed

A rule of the table with a fix does not fire any more after that fix (`Rules.fires_mend`), and so the fix of each
finding that is reported as fixable is applied, and the finding is gone. The one exception is a proxy location
without a target on a site without a backend: there is nothing to fill in. A site with a number of too many digits
has no signature, and fixing it breaks off. Main statement: `applyFix_fixable`.
-/

namespace SiteConf
open Text

/-! ### Reports and rules -/

section
variable {α : Type} {rules : List (Rule α)} {a : α}

theorem mem_findings_lint {f : Finding} :
    f ∈ (lint rules a).findings ↔ ∃ r ∈ rules, r.fires a = true ∧ r.finding = f := by
  show f ∈ (firedFindings rules a).mergeSort Finding.le ↔ _
  simp only [List.mem_mergeSort, firedFindings, List.mem_map, List.mem_filter, and_assoc]

theorem find?_of_ids_nodup (hnodup : (rules.map Rule.id).Nodup) {r : Rule α} (hr : r ∈ rules) :
    rules.find? (·.id == r.id) = some r := by
  cases hfind : rules.find? (·.id == r.id) with
  | none =>
    have hno := List.find?_eq_none.1 hfind r hr
    simp at hno
  | some r' =>
    have hid : r'.id = r.id := by simpa using List.find?_some hfind
    rw [List.inj_on_of_nodup_map hnodup (List.mem_of_find?_eq_some hfind) hr hid]

end

/-! ### Rules after their fixes -/

namespace Rules

/-- Each rule with a fix mends to sites on which it does not fire, but for the one about targets. -/
theorem exists_mends_quiet {r : Rule Site} (hr : r ∈ ruleTable) (hfix : r.fixable = true)
    (hid : r.id ≠ proxyLocationWithoutTarget.id) : ∃ f, r.Mends f ∧ ∀ s, r.fires (f s) = false := by
  simp only [ruleTable, List.mem_cons, List.not_mem_nil, or_false] at hr
  rcases hr with rfl | rfl | rfl | rfl | rfl | rfl | rfl | rfl | rfl | rfl | rfl | rfl | rfl | rfl | rfl |
    rfl | rfl | rfl | rfl | rfl | rfl | rfl | rfl | rfl | rfl | rfl
  · exact ⟨_, serverTokens_mends, fun _ => rfl⟩
  · exact ⟨_, headersMissing_mends, fun _ => rfl⟩
  · exact absurd hfix (by decide)
  · exact absurd hfix (by decide)
  · exact ⟨_, httpRedirectWithoutSsl_mends, fun s => and_and_not s.ssl.httpRedirect s.ssl.enabled⟩
  · exact absurd hfix (by decide)
  · exact ⟨_, proxyEnabledWithoutBackend_mends,
      fun s => and_not_and s.reverseProxy.enabled (isBlankText s.reverseProxy.backendAddress)⟩
  · exact ⟨_, gzipDisabled_mends, fun _ => rfl⟩
  · exact ⟨_, http2Disabled_mends, fun s => lacking_or s.ssl.enabled s.performance.http2⟩
  · exact ⟨_, workerConnectionsLow_mends, fun _ => rfl⟩
  · exact ⟨_, keepaliveTimeoutHigh_mends, fun s => decide_eq_false (by dsimp only; split_ifs <;> omega)⟩
  · exact ⟨_, sslProtocolsOutdated_mends, sslProtocolsOutdated_quiet⟩
  · exact ⟨_, noRateLimiting_mends, fun _ => rfl⟩
  · exact absurd hfix (by decide)
  · exact absurd hfix (by decide)
  · exact ⟨_, brotliDisabled_mends, fun s => lacking_or s.ssl.enabled s.performance.brotli⟩
  · exact ⟨_, noStaticCaching_mends, fun _ => rfl⟩
  · exact absurd hfix (by decide)
  · refine ⟨_, lowKeepalive_mends, fun s => ?_⟩
    show (decide _ && decide _) = false
    rw [← Bool.decide_and]
    exact decide_eq_false (by dsimp only; split_ifs <;> omega)
  · exact absurd hfix (by decide)
  · exact absurd hfix (by decide)
  · exact ⟨_, loggingDisabled_mends, fun _ => rfl⟩
  · exact ⟨_, upstreamWithoutServers_mends, fun s => and_not_and s.upstream.enabled s.upstream.servers.isEmpty⟩
  · exact absurd rfl hid
  · exact absurd hfix (by decide)
  · exact ⟨_, hstsMissing_mends, fun s => lacking_or s.ssl.enabled s.ssl.enableHsts⟩

/-- After its own fix a rule fires only if it is the one about targets and fired before, and there is no backend. -/
theorem fires_mend {s : Site} (hs : s.Valid) {r : Rule Site} (hr : r ∈ ruleTable) (hfix : r.fixable = true) :
    r.fires (r.mend s) = true ↔ r.fires s = true ∧ r.id = "correctness-proxy-location-without-target" ∧
      isBlankText s.reverseProxy.backendAddress = true := by
  by_cases hid : r.id = proxyLocationWithoutTarget.id
  · rw [eq_of_id_eq hr hid, proxyLocationWithoutTarget_mends.mend s hs]
    show (s.locations.map (retarget (trim s.reverseProxy.backendAddress))).any Location.lacksTarget = true ↔
      s.locations.any Location.lacksTarget = true ∧ _
    rw [any_lacksTarget_retarget, Bool.and_eq_true]
    exact ⟨fun h => ⟨h.1, rfl, h.2⟩, fun h => ⟨h.1, h.2.2⟩⟩
  · obtain ⟨f, hf, hquiet⟩ := exists_mends_quiet hr hfix hid
    rw [hf.mend s hs, hquiet s]
    exact ⟨fun h => (by cases h), fun h => absurd h.2.1 hid⟩

end Rules

/-! ### Fixing what is reported -/

/-- Fixing a finding that is reported as fixable changes the site, and the finding is not reported any more. If it
is about proxy locations without a target, and there is no backend, it is still reported. On a site with a number of
too many digits no such fix returns. -/
theorem applyFix_fixable {s : Site} (hs : s.Valid) {f : Finding} (hf : f ∈ (lint ruleTable s).findings)
    (hfix : f.fixable = true) :
    let hopeless := f.ruleId = "correctness-proxy-location-without-target" ∧
      isBlankText s.reverseProxy.backendAddress = true
    ((∀ n ∈ s.integers, FewDigits n) → ∃ result, (applyFix ruleTable f.ruleId s).map (·.1) = .ok result ∧
      (¬hopeless → result.applied = true ∧ ∀ g ∈ (lint ruleTable result.model).findings, g.ruleId ≠ f.ruleId) ∧
      (hopeless → f ∈ (lint ruleTable result.model).findings)) ∧
    ((¬∀ n ∈ s.integers, FewDigits n) → applyFix ruleTable f.ruleId s = .error .unwritable) := by
  obtain ⟨r, hr, hfires, rfl⟩ := mem_findings_lint.1 hf
  intro hopeless
  have hfind := find?_of_ids_nodup ruleTable_ids_nodup hr
  refine ⟨fun hfew => ?_, fun hmany => ?_⟩
  · obtain ⟨result, hresult, hmodel, happlied⟩ := applyFix_model mendable_ruleTable ⟨hs, hfew⟩ hfind
    have hagain := Rules.fires_mend hs hr hfix
    refine ⟨result, hresult, ?_⟩
    rw [hmodel]
    refine ⟨fun hnot => ?_, fun h => mem_findings_lint.2 ⟨r, hr, hagain.2 ⟨hfires, h⟩, rfl⟩⟩
    have hquiet : r.fires (r.mend s) = false := Bool.eq_false_iff.2 fun h => hnot (hagain.1 h).2
    refine ⟨happlied.2 fun hsame => ?_, fun g hg hid => ?_⟩
    · rw [hsame, hfires] at hquiet
      cases hquiet
    · obtain ⟨r', hr', hfires', rfl⟩ := mem_findings_lint.1 hg
      rw [List.inj_on_of_nodup_map ruleTable_ids_nodup hr' hr hid, hquiet] at hfires'
      cases hfires'
  · exact applyFix_of_unsigned hfind (Site.signature_eq_error hmany) (proposes_mend hs hr hfix hfires)

/-- A site that shows its version, with a backend that is only a blank and with a proxy location that lacks its
target: the first finding is fixed, the other one is not. -/
theorem applyFix_fixable_without_backend :
    let s : Site :=
      { security := { hideVersion := false }
        reverseProxy := { backendAddress := " " }
        locations := [{ path := "/api", kind := .proxy }] }
    let fixed := Rules.serverTokens.finding
    let hopeless := Rules.proxyLocationWithoutTarget.finding
    s.Valid ∧ fixed ∈ (lint ruleTable s).findings ∧ hopeless ∈ (lint ruleTable s).findings ∧
      fixed.fixable = true ∧ hopeless.fixable = true ∧
      (∃ result, (applyFix ruleTable fixed.ruleId s).map (·.1) = .ok result ∧ result.applied = true ∧
        ∀ g ∈ (lint ruleTable result.model).findings, g.ruleId ≠ fixed.ruleId) ∧
      ∃ result, (applyFix ruleTable hopeless.ruleId s).map (·.1) = .ok result ∧
        hopeless ∈ (lint ruleTable result.model).findings := by
  intro s fixed hopeless
  have hs : s.Valid := by decide
  have hfixed : fixed ∈ (lint ruleTable s).findings := mem_findings_lint.2 ⟨_, by simp [ruleTable], by decide, rfl⟩
  have hhopeless : hopeless ∈ (lint ruleTable s).findings :=
    mem_findings_lint.2 ⟨_, by simp [ruleTable], by decide, rfl⟩
  obtain ⟨result, hresult, hgone, -⟩ := (applyFix_fixable hs hfixed rfl).1 (by decide)
  obtain ⟨result', hresult', -, hstays⟩ := (applyFix_fixable hs hhopeless rfl).1 (by decide)
  exact ⟨hs, hfixed, hhopeless, rfl, rfl, ⟨result, hresult, hgone (by decide)⟩, result', hresult',
    hstays ⟨rfl, by decide⟩⟩

end SiteConf
