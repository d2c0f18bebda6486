import SiteConf.Proofs.Ledger
import SiteConf.Proofs.Regenerated

/-!
# The ciphers of an imported site

Each directive about the ciphers replaces what an earlier one said (`Draft.isSetting_ciphers`,
`Draft.isSetting_preferServerCiphers`), so that the last list and the last word on who chooses among them count.
Settling the draft may change the profile, and never the ciphers. Main statement: `Import.ciphers_of_last`.
-/

namespace SiteConf
open Text

/-- The cipher list that a directive asks for. Without one the site has that of the middle profile. -/
def Node.cipherList (n : Node) : String :=
  if n.arg 0 = "" then CipherProfile.intermediate.suite.ciphers else n.arg 0

/-- A list is offered as it is, whether it is a profile's or stands for itself. -/
theorem Ssl.effectiveCiphers_nearest (s : Ssl) (n : Node) :
    Ssl.effectiveCiphers { s with
      preset := .nearest (n.arg 0)
      ciphers := if (CipherProfile.ofCiphers? (n.arg 0)).isSome then "" else n.arg 0 } = n.cipherList := by
  unfold effectiveCiphers Node.cipherList
  generalize n.arg 0 = ciphers
  dsimp only
  by_cases hempty : ciphers = ""
  · rw [hempty]
    rfl
  · rw [if_neg hempty, CipherProfile.nearest]
    cases hp : CipherProfile.ofCiphers? ciphers with
    | some p => exact CipherProfile.ciphers_of_ofCiphers? hp
    | none => exact if_neg (by simpa using hempty)

/-! ### What a server does -/

namespace Draft

theorem isSetting_ciphers : IsSetting (·.site.ssl.effectiveCiphers) "ssl_ciphers" Node.cipherList where
  known := by decide
  sets {d _ n _} h := by
    cases h
    case ciphers => exact d.site.ssl.effectiveCiphers_nearest n
    case otherHeader => rw [site_unmodelled, if_neg (by decide)]
    all_goals rfl
  unmodelled d n := by rw [site_unmodelled]
  location d n := by
    refine (d.changes_location n).mono ?_
    rintro _ ⟨burst, caching, locations, ws, -, rfl⟩
    rfl

theorem isSetting_preferServerCiphers :
    IsSetting (·.preferServerCiphers) "ssl_prefer_server_ciphers" fun n => some (n.arg 0 == "on") where
  known := by decide
  sets {d _ n _} h := by
    cases h
    case otherHeader => rw [preferServerCiphers_unmodelled, if_neg (by decide)]
    all_goals rfl
  unmodelled := preferServerCiphers_unmodelled
  location d n := by
    refine (d.changes_location n).mono ?_
    rintro _ ⟨burst, caching, locations, ws, -, rfl⟩
    rfl

end Draft

/-! ### The whole import -/

namespace Import
variable {nodes : List Node} {errors : List String} {i : Import} {s : Node} {ss : List Node}

/-- The ciphers of a site are those of the last list of its server, and who chooses among them is as the last word
on it says. -/
theorem ciphers_of_last (h : ofNodes nodes errors = .ok i)
    (hs : (fileScope nodes).filter Node.isServer = s :: ss) {n m : Node}
    (hn : ((chooseServer s ss).1.children.filter (Node.isDirective "ssl_ciphers")).getLast? = some n)
    (hne : n.arg 0 ≠ "")
    (hm : ((chooseServer s ss).1.children.filter (Node.isDirective "ssl_prefer_server_ciphers")).getLast? = some m) :
    i.site.ssl.effectiveCiphers = n.arg 0 ∧
      (i.site.ssl.preset.suite.preferServerCiphers = true ↔ m.arg 0 = "on") := by
  obtain ⟨d, e, f, -, he, ⟨us, hf⟩, hsite, -⟩ := exists_runs h hs
  have hlist := Draft.isSetting_ciphers.run d _ e he
  have hprefer := Draft.isSetting_preferServerCiphers.run d _ e he
  rw [hn, Option.map_some, Option.getD_some, Node.cipherList, if_neg hne] at hlist
  rw [hm, Option.map_some, Option.getD_some] at hprefer
  have hssl : i.site.ssl = e.site.ssl.settle (some (m.arg 0 == "on")) := by
    obtain ⟨upstream, ws, -, rfl⟩ := e.changes_withUpstreams us f hf
    rw [hsite, Draft.finish_eq, ← hprefer]
  rw [hssl, Ssl.effectiveCiphers_settle, Ssl.preferServerCiphers_settle]
  exact ⟨hlist, beq_iff_eq⟩

/-- The list of a profile that leaves the choice to the client, in a server that does not. -/
theorem ciphers_of_last_modern :
    let modern := CipherProfile.modern.suite.ciphers
    let n := Node.directive "ssl_ciphers" [modern] 6
    let m := Node.directive "ssl_prefer_server_ciphers" ["on"] 5
    let server := Node.block "server" [] 1 [.directive "ssl_prefer_server_ciphers" ["off"] 2,
      .directive "ssl_ciphers" ["HIGH:!aNULL"] 3, .block "location" ["/"] 4 [], m, n]
    ∃ i, ofNodes [server] [] = .ok i ∧ (fileScope [server]).filter Node.isServer = [server] ∧
      (server.children.filter (Node.isDirective "ssl_ciphers")).getLast? = some n ∧ n.arg 0 ≠ "" ∧
      (server.children.filter (Node.isDirective "ssl_prefer_server_ciphers")).getLast? = some m ∧
      i.site.ssl.effectiveCiphers = modern ∧ i.site.ssl.preset.suite.preferServerCiphers = true := by
  intro modern n m server
  obtain ⟨i, hi⟩ := exists_of_isOk (show (ofNodes [server] []).isOk = true by decide +kernel)
  have hne : n.arg 0 ≠ "" := by decide
  obtain ⟨hlist, hprefer⟩ := ciphers_of_last (n := n) (m := m) hi rfl rfl hne rfl
  exact ⟨i, hi, rfl, rfl, hne, rfl, hlist, hprefer.2 rfl⟩

end Import
end SiteConf
