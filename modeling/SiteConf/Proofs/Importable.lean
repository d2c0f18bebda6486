import SiteConf.Proofs.Encoded
import SiteConf.Proofs.Ledger
import SiteConf.Proofs.Returning
import SiteConf.Proofs.Sound

/-!
# Every import gives a valid site

The importer assigns fields one by one and checks none of the conditions of `Site.Valid` at the end. They
hold since each statement keeps them (`Draft.Sound`), and since a class of assets gets an expiry from its
first caching location only. So what is imported can be written as data and read again
(`Import.ofNodes_valid`).
-/

namespace SiteConf
open Text

/-! ### Expiries of asset classes -/

/-- Each asset class has at most one expiry so far, and none of them is a field of the site yet. -/
structure Ledger.CachesOnce (k : Ledger) : Prop where
  classes : (k.caching.map (·.1)).Nodup
  pending : k.assetExpiry = []

theorem Enters.cachesOnce {k k' : Ledger} {n : Node} (h : Enters k n k') (hk : k.CachesOnce) : k'.CachesOnce := by
  cases h with
  | skipped hp => exact hk
  | placed l hp hs hl => exact ⟨hk.classes, hk.pending⟩
  | cached s hp hs hnew =>
    refine ⟨?_, hk.pending⟩
    have hfresh : s.1 ∉ k.caching.map (·.1) := by
      intro hmem
      obtain ⟨e, he, hclass⟩ := List.mem_map.1 hmem
      exact absurd hclass.symm (by simpa using List.lookup_eq_none_iff.1 hnew e he)
    rw [List.map_append, List.map_singleton]
    exact List.nodup_append.2 ⟨hk.classes, List.nodup_singleton _, by
      rintro a ha b hb rfl
      rw [List.mem_singleton] at hb
      exact hfresh (hb ▸ ha)⟩

theorem Performance.valid_settle {p : Performance} (types : Option (List String))
    {caching : List (AssetClass × String)} (hsize : 0 ≤ p.clientMaxBodySize) (hp : p.assetCacheExpiry = [])
    (hc : (caching.map (·.1)).Nodup) : ((p.settleBrotli types).settleCaching caching).Valid := by
  have hkept : (p.settleBrotli types).assetCacheExpiry = [] ∧ 0 ≤ (p.settleBrotli types).clientMaxBodySize := by
    cases types <;> exact ⟨hp, hsize⟩
  cases caching with
  | nil =>
    refine ⟨?_, ?_, hkept.2⟩
    · show ((p.settleBrotli types).assetCacheExpiry.map (·.1)).Nodup
      rw [hkept.1]
      exact List.nodup_nil
    · show ((p.settleBrotli types).assetCacheExpiry.map (·.1)).filter _ = []
      rw [hkept.1]
      rfl
  | cons e rest =>
    obtain ⟨a, first⟩ := e
    let different := ((a, first) :: rest).filter fun e => e.2 != baseExpiry ((a, first) :: rest) first
    have hkeys : (different.map fun e => (spell e.1, e.2)).map (·.1) = (different.map (·.1)).map spell := by
      rw [List.map_map, List.map_map]
      rfl
    have hclasses : (different.map (·.1)).Nodup := hc.sublist (List.filter_sublist.map _)
    refine ⟨?_, ?_, hkept.2⟩
    · show ((different.map fun e => (spell e.1, e.2)).map (·.1)).Nodup
      rw [hkeys]
      exact hclasses.map fun a b h => Keyword.spell_inj h
    · show ((different.map fun e => (spell e.1, e.2)).map (·.1)).filter _ = []
      rw [hkeys, List.filter_eq_nil_iff]
      intro key hkey
      obtain ⟨a, -, rfl⟩ := List.mem_map.1 hkey
      rw [Keyword.read?_spell]
      simp

/-! ### The whole import -/

namespace Import

theorem ensures_valid (nodes : List Node) (errors : List String) :
    Ensures (ofNodes nodes errors) fun i => i.site.Valid := by
  intro i hi
  have hsound := ensures_ofNodes nodes errors i hi
  refine ⟨hsound.port.1, ?_, fun m hm => (hsound.members m hm).weight.1, fun l hl => (hsound.locations l hl).1⟩
  cases hs : (fileScope nodes).filter Node.isServer with
  | nil =>
    unfold ofNodes at hi
    dsimp only at hi
    rw [hs] at hi
    rw [← Except.ok.inj hi]
    exact Site.valid_default.performance
  | cons s ss =>
    obtain ⟨d, e, f, r, hd, hrun, hf, hsite⟩ := exists_draft hi hs
    have hstep : ∀ d n, d.ledger.CachesOnce →
        Ensures (Draft.serverStatement d n) fun d' => d'.ledger.CachesOnce := by
      intro d n h
      refine (d.ensures_serverStatement n).mono fun d' hd' => ?_
      split_ifs at hd'
      · exact hd'.cachesOnce h
      · rwa [hd']
    have hstart : d.ledger.CachesOnce := by
      rw [hd]
      exact ⟨List.nodup_nil, rfl⟩
    have hend : f.ledger.CachesOnce := by
      rw [hf]
      exact Ensures.foldlM hstep hstart _ e hrun
    have hsize : 0 ≤ f.site.performance.clientMaxBodySize := by
      have hsettled := hsound.size.1
      rw [hsite, Draft.finish_eq] at hsettled
      cases hb : f.brotliTypes <;> cases hcaching : f.caching <;> rw [hb, hcaching] at hsettled <;> exact hsettled
    rw [hsite, Draft.finish_eq]
    exact Performance.valid_settle _ hsize hend.pending hend.classes

theorem ensures_errors (nodes : List Node) (errors : List String) :
    Ensures (ofNodes nodes errors) fun i => i.errors = errors := by
  unfold ofNodes
  dsimp only
  split
  · exact .ok rfl
  · exact Ensures.of_bind fun _ => Ensures.of_bind fun _ => Ensures.of_bind fun _ => .ok rfl

/-- Nodes with few digits in each argument are imported, as a valid site that is read back from its data, and
the errors come back unchanged. -/
theorem ofNodes_valid (nodes : List Node) (errors : List String) (h : AllFewArgumentDigits nodes) :
    ∃ i, ofNodes nodes errors = .ok i ∧ i.site.Valid ∧ Site.ofData i.site.toData = .ok i.site ∧ i.errors = errors := by
  obtain ⟨i, hi⟩ := returns_ofNodes h errors
  have hvalid := ensures_valid nodes errors i hi
  exact ⟨i, hi, hvalid, Site.ofData_toData hvalid, ensures_errors nodes errors i hi⟩

/-- A port and a weight that are zero, a size in digits of another script, and caching locations of one class. -/
theorem ofNodes_valid_odd :
    let nodes : List Node := [.block "http" [] 1 [.block "server" [] 2 [.directive "listen" ["0"] 3,
      .directive "client_max_body_size" ["٣k"] 4,
      .block "location" ["~*", "\\.css$"] 5 [.directive "expires" ["1d"] 6,
        .directive "add_header" ["Cache-Control", "public, immutable"] 7],
      .block "location" ["=", "/old"] 8 [.directive "return" ["302", "/new"] 9]],
      .block "upstream" ["pool"] 10 [.directive "server" ["10.0.0.1", "weight=0"] 11]]]
    AllFewArgumentDigits nodes ∧ ∃ i, ofNodes nodes ["unclosed"] = .ok i ∧ i.site.Valid ∧
      Site.ofData i.site.toData = .ok i.site ∧ i.errors = ["unclosed"] := by
  intro nodes
  have h : AllFewArgumentDigits nodes := by
    simp only [nodes, AllFewArgumentDigits, Node.FewArgumentDigits, and_true]
    decide
  exact ⟨h, ofNodes_valid nodes ["unclosed"] h⟩

end Import
end SiteConf
