import Mathlib
import SiteConf.Site.Patch

/-!
# Merging a patch

A record is read back from its entries, headers and locations among them (`Location.read_toEntries`).
Merging one entry into a site leaves all else as it was: `merge_section` for a map aimed at a section,
`merge_locations` for a list of locations.
-/

namespace SiteConf
open Codec

/-! ### Records -/

@[simp] theorem member_spell {α : Type} [Keyword α] (a : α) : member (spell a) = .ok a := by
  rw [member, Keyword.read?_spell]

theorem texts?_map_text (ss : List String) : texts? (ss.map .text) = some ss := by
  induction ss with
  | nil => rfl
  | cons s ss ih => rw [List.map_cons, texts?, ih]; rfl

theorem asTexts_texts (path : String) (ss : List String) : asTexts path (texts ss) = .ok ss := by
  rw [texts, asTexts, texts?_map_text]

theorem readItems_map_of {α : Type} {item : Reader α} {f : α → Data} {P : α → Prop}
    (h : ∀ path a, P a → item path (f a) = .ok a) (path : String) (i : Nat) {as : List α} (has : ∀ a ∈ as, P a) :
    readItems item path i (as.map f) = .ok as := by
  induction as generalizing i with
  | nil => rfl
  | cons a as ih =>
    rw [List.map_cons, readItems, h _ a (has a (by simp)), ih (i + 1) fun x hx => has x (by simp [hx])]
    rfl

theorem readItems_map {α : Type} {item : Reader α} {f : α → Data} (h : ∀ path a, item path (f a) = .ok a)
    (path : String) (i : Nat) (as : List α) : readItems item path i (as.map f) = .ok as :=
  readItems_map_of (P := fun _ => True) (fun path a _ => h path a) path i fun _ _ => trivial

theorem Header.read_toEntries (path : String) (h : Header) : Header.read path (.map h.toEntries) = .ok h := rfl

@[simp] theorem require_fields (ok : Bool) (f : Fault) : require .fields ok f = .ok () := by
  simp [require]

theorem require_of {trust : Trust} {ok : Bool} (h : ok = true) (f : Fault) : require trust ok f = .ok () := by
  simp [require, h]

theorem Location.read_toEntries (path : String) (l : Location) :
    Location.read .fields path (.map l.toEntries) = .ok l := by
  have hh : ∀ path, readItems Header.read path 0 (l.proxyHeaders.map fun h => .map h.toEntries) =
      .ok l.proxyHeaders := fun path => readItems_map Header.read_toEntries path 0 _
  -- all but the headers, the keywords and the conditions is found by evaluation
  show (do
    let proxyHeaders ← readItems Header.read (path ++ "." ++ "proxy_headers") 0
      (l.proxyHeaders.map fun h => .map h.toEntries)
    require .fields (l.path != "") .emptyLocationPath
    let matchType ← member (spell l.matchType)
    let kind ← member (spell l.kind)
    require .fields (redirectCodes.contains l.redirectCode) (.redirectCode l.redirectCode)
    pure { l with proxyHeaders, matchType, kind } : Except Fault Location) = .ok l
  rw [hh, require_fields, require_fields, member_spell, member_spell]
  rfl

/-! ### One entry -/

namespace Site
variable {s t : Site}

theorem fill_nil (path : String) (s : Site) : fill .fields path s [] = .ok s := by
  show (do
    require .fields (1 ≤ s.listenPort) (.listenPort (.int s.listenPort))
    pure s) = Except.ok s
  rw [require_fields]
  rfl

theorem merge_section {name : String} {p : Entries} (hn : name ∈ sections)
    (h : s.mergeEntry (name, .map p) = .ok t) (hport : 1 ≤ t.listenPort) :
    s.merge [(name, .map p)] = .ok t := by
  have hfilter : [(name, Data.map p)].filter (fun e => !sections.contains e.1) = [] := by simp [hn]
  have hlookup : [(name, Data.map p)].lookup "listen_port" = none := by
    -- no section is called like the port
    have hne : ("listen_port" == name) = false := by
      rw [beq_eq_false_iff_ne]
      rintro rfl
      exact absurd hn (by decide)
    simp [List.lookup_cons, hne]
  have hrun : s.merge [(name, .map p)] = (do
      let s ← fill .fields record t []
      require .nothing (1 ≤ s.listenPort) (.listenPort (.int s.listenPort))
      pure s) := by
    unfold merge
    rw [List.foldlM_cons, h, hlookup, hfilter]
    rfl
  rw [hrun, fill_nil]
  show (do
    require .nothing (1 ≤ t.listenPort) (.listenPort (.int t.listenPort))
    pure t) = Except.ok t
  rw [require_of (decide_eq_true hport)]
  rfl

/-! A patch of a section with a keyword leaves the keyword to be read back. -/

theorem mergeEntry_ssl {fields : Entries} {q : Ssl}
    (hq : mergeSection Ssl.record s.ssl.toEntries (Ssl.fill · s.ssl) fields = (do
      let preset ← member (spell s.ssl.preset)
      pure { q with preset })) (hk : q.preset = s.ssl.preset) :
    s.mergeEntry ("ssl", .map fields) = .ok { s with ssl := q } := by
  show (do
    let ssl ← mergeSection Ssl.record s.ssl.toEntries (Ssl.fill · s.ssl) fields
    pure { s with ssl }) = Except.ok { s with ssl := q }
  rw [hq, member_spell, ← hk]
  rfl

theorem mergeEntry_logging {fields : Entries} {q : Logging}
    (hq : mergeSection Logging.record s.logging.toEntries (Logging.fill · s.logging) fields = (do
      let errorLogLevel ← member (spell s.logging.errorLogLevel)
      pure { q with errorLogLevel })) (hk : q.errorLogLevel = s.logging.errorLogLevel) :
    s.mergeEntry ("logging", .map fields) = .ok { s with logging := q } := by
  show (do
    let logging ← mergeSection Logging.record s.logging.toEntries (Logging.fill · s.logging) fields
    pure { s with logging }) = Except.ok { s with logging := q }
  rw [hq, member_spell, ← hk]
  rfl

theorem mergeEntry_upstream {fields : Entries} {q : Upstream}
    (hq : mergeSection Upstream.record s.upstream.toEntries (Upstream.fill .fields · s.upstream) fields = (do
      let method ← member (spell s.upstream.method)
      pure { q with method })) (hk : q.method = s.upstream.method) :
    s.mergeEntry ("upstream", .map fields) = .ok { s with upstream := q } := by
  show (do
    let upstream ← mergeSection Upstream.record s.upstream.toEntries (Upstream.fill .fields · s.upstream) fields
    pure { s with upstream }) = Except.ok { s with upstream := q }
  rw [hq, member_spell, ← hk]
  rfl

/-- The conditions of the section hold again if the patch leaves its asset classes and size limit. -/
theorem mergeEntry_performance (hs : s.Valid) {fields : Entries} {q : Performance}
    (hq : mergeSection Performance.record s.performance.toEntries (Performance.fill .nothing · s.performance)
      fields = (do
        let clientMaxBodyUnit ← member (spell s.performance.clientMaxBodyUnit)
        let q := { q with clientMaxBodyUnit }
        require .nothing q.unknownAssets.isEmpty (.unknownAssets q.unknownAssets)
        require .nothing (0 ≤ q.clientMaxBodySize) .negativeBodySize
        pure q))
    (hk : q.clientMaxBodyUnit = s.performance.clientMaxBodyUnit)
    (ha : q.assetCacheExpiry = s.performance.assetCacheExpiry)
    (hb : q.clientMaxBodySize = s.performance.clientMaxBodySize) :
    s.mergeEntry ("performance", .map fields) = .ok { s with performance := q } := by
  obtain ⟨-, hu, hc⟩ := hs.performance
  have hu' : q.unknownAssets.isEmpty = true := by
    rw [Performance.unknownAssets, ha]
    exact List.isEmpty_iff.2 hu
  have hc' : decide (0 ≤ q.clientMaxBodySize) = true := by
    rw [hb]
    exact decide_eq_true hc
  show (do
    let performance ← mergeSection Performance.record s.performance.toEntries
      (Performance.fill .nothing · s.performance) fields
    pure { s with performance }) = Except.ok { s with performance := q }
  rw [hq, member_spell, ← hk]
  show (do
    let performance ← (do
      require .nothing q.unknownAssets.isEmpty (.unknownAssets q.unknownAssets)
      require .nothing (0 ≤ q.clientMaxBodySize) .negativeBodySize
      pure q)
    pure { s with performance }) = Except.ok { s with performance := q }
  rw [require_of hu', require_of hc']
  rfl

theorem fill_locations (path : String) (s : Site) (ls : List Location) :
    fill .fields path s [("locations", .list (ls.map fun l => .map l.toEntries))] =
      .ok { s with locations := ls } := by
  have hl : ∀ path, readItems (Location.read .fields) path 0 (ls.map fun l => .map l.toEntries) = .ok ls :=
    fun path => readItems_map Location.read_toEntries path 0 ls
  show (do
    let locations ← readItems (Location.read .fields) (path ++ "." ++ "locations") 0
      (ls.map fun l => .map l.toEntries)
    require .fields (1 ≤ s.listenPort) (.listenPort (.int s.listenPort))
    pure { s with locations }) = Except.ok { s with locations := ls }
  rw [hl, require_fields]
  rfl

theorem merge_locations (hport : 1 ≤ s.listenPort) (ls : List Location) :
    s.merge [("locations", .list (ls.map fun l => .map l.toEntries))] = .ok { s with locations := ls } := by
  show (do
    let s ← fill .fields record s [("locations", .list (ls.map fun l => .map l.toEntries))]
    require .nothing (1 ≤ s.listenPort) (.listenPort (.int s.listenPort))
    pure s) = Except.ok { s with locations := ls }
  rw [fill_locations]
  show (do
    require .nothing (1 ≤ s.listenPort) (.listenPort (.int s.listenPort))
    pure { s with locations := ls }) = Except.ok { s with locations := ls }
  rw [require_of (decide_eq_true hport)]
  rfl

end Site
end SiteConf
