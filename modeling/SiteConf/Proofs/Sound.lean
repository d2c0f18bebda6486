import SiteConf.Proofs.Changes
import SiteConf.Proofs.Kept

/-!
# What an import ensures

Every statement of a text keeps a draft sound (`Draft.Sound`), so every imported site is sound
(`Import.ensures_ofText`): its numbers are in their ranges and have few digits, and its locations are those
that a reading of a block can give.
-/

namespace SiteConf
open Text

/-! ### Upstream pools -/

theorem PoolMember.ensures_addParameter {m : PoolMember} (h : m.Readable) (p : String) :
    Ensures (m.addParameter p) fun r => r.1.Readable := by
  have hone : FewDigits ((1 : Nat) : Int) := by decide
  unfold addParameter
  dsimp only
  split
  · refine (ensures_numberFrom (by omega) hone _).bind fun n hn => .ok ?_
    exact { h with weight := ⟨Int.ofNat_le.2 hn.1, hn.2⟩ }
  · refine (ensures_numberFrom (by omega) hone _).bind fun n hn => .ok ?_
    exact { h with maxFails := ⟨by simp, hn.2⟩ }
  · refine (ensures_readSeconds _).bind fun o ho => .ok ?_
    refine { h with failTimeout := ⟨by simp, ?_⟩ }
    cases o with
    | none => exact (by decide : FewDigits ((10 : Nat) : Int))
    | some n => exact ho n rfl
  · exact .ok h

theorem PoolMember.ensures_addParameters {m : PoolMember} (h : m.Readable) (ps : List String) :
    Ensures (m.addParameters ps) fun r => r.1.Readable := by
  induction ps generalizing m with
  | nil => exact .ok h
  | cons p ps ih =>
    refine (ensures_addParameter h p).bind fun r hr => ?_
    exact (ih hr).bind fun r' hr' => .ok hr'

theorem Upstream.ensures_add {u : Upstream} (h : ∀ m ∈ u.servers, m.Readable) (n : Node) :
    Ensures (u.add n) fun r => ∀ m ∈ r.1.servers, m.Readable := by
  unfold add
  split
  · exact .ok h
  · split
    · next address ps =>
      have hone : (1 : Int) ≤ 1 ∧ FewDigits 1 := by decide
      have hnew : PoolMember.Readable { address } := ⟨hone, (by decide : (0 : Int) ≤ 1 ∧ FewDigits 1),
        (by decide : (0 : Int) ≤ 10 ∧ FewDigits 10)⟩
      refine (PoolMember.ensures_addParameters hnew ps).bind fun r hr => .ok ?_
      exact List.forall_mem_append.2 ⟨h, by simpa using hr⟩
    · split
      · exact .ok h
      · exact .ok h

theorem Upstream.ensures_addAll {u : Upstream} (h : ∀ m ∈ u.servers, m.Readable) (ns : List Node) :
    Ensures (u.addAll ns) fun r => ∀ m ∈ r.1.servers, m.Readable := by
  induction ns generalizing u with
  | nil => exact .ok h
  | cons n ns ih =>
    refine (ensures_add h n).bind fun r hr => ?_
    exact (ih hr).bind fun r' hr' => .ok hr'

/-! ### Drafts -/

namespace Draft

/-- What each statement keeps. The headers of the proxies are settled at the end only. -/
structure Sound (d : Draft) : Prop where
  port : 1 ≤ d.site.listenPort ∧ FewDigits d.site.listenPort
  limits : FewDigits d.site.security.rateLimit ∧ FewDigits d.site.security.rateBurst
  size : 0 ≤ d.site.performance.clientMaxBodySize ∧ FewDigits d.site.performance.clientMaxBodySize
  keepalive : FewDigits d.site.performance.keepaliveTimeout
  realm : d.site.security.basicAuthRealm ≠ "off"
  members : ∀ m ∈ d.site.upstream.servers, m.Readable
  locations : ∀ l ∈ d.site.locations, l.Sound
  proxy : d.site.reverseProxy = {}

theorem sound_empty : Sound {} := by
  refine ⟨by decide, by decide, by decide, by decide, by decide, ?_, ?_, rfl⟩
  · intro m hm
    cases hm
  · intro l hl
    cases hl

/-- An effect that keeps drafts sound. -/
def Keeps (f : Effect) : Prop := ∀ d n, d.Sound → Ensures (f d n) Sound

/-- The fields that soundness is about. -/
def vitals (d : Draft) :=
  (d.site.listenPort, d.site.security.rateLimit, d.site.security.rateBurst, d.site.performance.clientMaxBodySize,
    d.site.performance.keepaliveTimeout, d.site.security.basicAuthRealm, d.site.upstream, d.site.locations,
    d.site.reverseProxy)

theorem Sound.congr {d e : Draft} (h : d.Sound) (he : e.vitals = d.vitals) : e.Sound := by
  simp only [vitals, Prod.mk.injEq] at he
  obtain ⟨h1, h2, h3, h4, h5, h6, h7, h8, h9⟩ := he
  refine ⟨?_, ?_, ?_, ?_, ?_, ?_, ?_, ?_⟩
  · rw [h1]; exact h.port
  · rw [h2, h3]; exact h.limits
  · rw [h4]; exact h.size
  · rw [h5]; exact h.keepalive
  · rw [h6]; exact h.realm
  · rw [h7]; exact h.members
  · rw [h8]; exact h.locations
  · rw [h9]; exact h.proxy

theorem Sound.warn {d : Draft} (h : d.Sound) (w : Warning) : (d.warn w).Sound := h.congr rfl

theorem vitals_unmodelled (d : Draft) (n : Node) : (d.unmodelled n).vitals = d.vitals := by
  unfold unmodelled
  split_ifs <;> rfl

theorem Sets.sound {d d' : Draft} {n : Node} {name : String} (h : Sets d n name d') (hd : d.Sound) : d'.Sound := by
  cases h
  case listen port h => exact { hd with port := h.elim (fun h => h ▸ hd.port) id }
  case otherHeader => exact hd.congr (vitals_unmodelled d n)
  case auth h => exact { hd with realm := h }
  case bodySize size unit ws hsize h => exact { hd with size := hsize.elim (fun h => h ▸ hd.size) id }
  case keepalive timeout ws ht h => exact { hd with keepalive := ht.elim (fun h => h ▸ hd.keepalive) id }
  all_goals exact hd.congr rfl

theorem keeps_directive : Keeps directive := by
  intro d n h
  refine (d.sets_directive n).mono ?_
  rintro d' (⟨-, rfl⟩ | ⟨-, -, hsets⟩ | ⟨-, -, rfl⟩)
  · exact h
  · exact hsets.sound h
  · exact h.congr (vitals_unmodelled d n)

theorem ensures_setBurst {d : Draft} (h : d.Sound) (burst : Option (List Char)) :
    Ensures (d.setBurst burst) Sound := by
  cases burst with
  | none => exact .ok h
  | some ds =>
    rw [setBurst]
    have hread : Ensures (do let n ← readNumber ds; pure (n : Int)) FewDigits :=
      (ensures_readNumber ds).bind fun n hn => .ok hn
    refine hread.map fun n hn => ?_
    exact ⟨h.port, ⟨h.limits.1, hn⟩, h.size, h.keepalive, h.realm, h.members, h.locations, h.proxy⟩

theorem ensures_place {d : Draft} (h : d.Sound) (m : MatchType) {path : String} (hp : path ≠ "") (ns : List Node) :
    Ensures (d.place m path ns) Sound := by
  unfold place
  split
  · exact .ok (h.congr rfl)
  · refine (Location.ensures_ofChildren hp m ns).map fun l hl => ?_
    exact { h with locations := List.forall_mem_append.2 ⟨h.locations, by simpa using hl⟩ }

theorem keeps_location : Keeps Draft.location := by
  intro d n h
  rw [location_eq]
  dsimp only
  have hseen : ({ d with locationSeen := true } : Draft).Sound := h.congr rfl
  have hwarned : Sound (if n.locationTarget.2.2 then
        ({ d with locationSeen := true } : Draft).warn (.strongModifier n.line)
      else { d with locationSeen := true }) := by
    split_ifs
    · exact hseen.warn _
    · exact hseen
  by_cases hpath : n.locationTarget.2.1.isEmpty = true
  · rw [if_pos hpath]
    exact .ok (hwarned.warn _)
  · rw [if_neg hpath]
    refine (ensures_setBurst hwarned _).bind fun d' hd' => ?_
    exact ensures_place hd' _ (by simpa using hpath) _

theorem keeps_serverStatement : Keeps serverStatement := by
  intro d n h
  unfold serverStatement
  split
  · exact keeps_location d _ h
  · exact .ok (h.congr (vitals_unmodelled d _))
  · exact keeps_directive d _ h

theorem keeps_fileStatement : Keeps fileStatement := by
  intro d n h
  unfold fileStatement
  split_ifs
  · unfold limitReqZone
    dsimp only
    split
    · exact (ensures_readNumber _).bind fun rate hrate => .ok { h with limits := ⟨hrate, h.limits.2⟩ }
    · exact .ok (h.congr rfl)
  · exact .ok (h.warn _)

theorem keeps_upstream : Keeps upstream := by
  intro d n h
  unfold upstream
  dsimp only
  split_ifs
  · exact .ok (h.warn _)
  · refine (Upstream.ensures_addAll (u := { enabled := true, name := n.arg 0 }) (by simp) n.children).bind
      fun r hr => .ok ?_
    exact { h with members := hr }

end Draft

/-! ### Sites -/

/-- What an import ensures of a site. -/
structure Site.Sound (s : Site) : Prop where
  port : 1 ≤ s.listenPort ∧ FewDigits s.listenPort
  limits : FewDigits s.security.rateLimit ∧ FewDigits s.security.rateBurst
  size : 0 ≤ s.performance.clientMaxBodySize ∧ FewDigits s.performance.clientMaxBodySize
  keepalive : FewDigits s.performance.keepaliveTimeout
  realm : s.security.basicAuthRealm ≠ "off"
  members : ∀ m ∈ s.upstream.servers, m.Readable
  locations : ∀ l ∈ s.locations, l.Valid ∧ FewDigits l.proxyTimeout
  upgrades : ∀ l ∈ s.locations, l.LegibleBody → l.KeepsUpgrade s.reverseProxy.realIpHeaders
  headers : s.reverseProxy.customHeaders = []

theorem Site.sound_default : ({} : Site).Sound where
  port := by decide
  limits := by decide
  size := by decide
  keepalive := by decide
  realm := by decide
  members := by simp
  locations := by decide
  upgrades l hl _ hk := by
    rw [List.mem_singleton.1 hl] at hk
    cases hk
  headers := rfl

theorem Draft.Sound.finish {d : Draft} (h : d.Sound) : d.finish.site.Sound := by
  rw [Draft.finish_eq]
  exact {
    port := h.port
    limits := h.limits
    size := by
      rw [Performance.clientMaxBodySize_settle]
      exact h.size
    keepalive := by
      rw [Performance.keepaliveTimeout_settle]
      exact h.keepalive
    realm := h.realm
    members := h.members
    locations := by
      intro l hl
      change l ∈ settleLocations d.site.locations at hl
      unfold settleLocations at hl
      split_ifs at hl
      · obtain ⟨k, hk, rfl⟩ := List.mem_map.1 hl
        obtain ⟨hpath, hcode⟩ := (h.locations k hk).valid
        rw [Location.dropForwarding_eq]
        exact ⟨⟨hpath, hcode⟩, (h.locations k hk).timeout⟩
      · exact ⟨(h.locations l hl).valid, (h.locations l hl).timeout⟩
    upgrades := by
      intro l hl hlegible
      change l ∈ settleLocations d.site.locations at hl
      change l.KeepsUpgrade (d.site.reverseProxy.settle d.rootSeen d.site.locations).realIpHeaders
      rw [h.proxy, Site.realIpHeaders_settle]
      unfold settleLocations at hl
      cases hf : forwards d.site.locations with
      | true => exact fun _ _ => .inr rfl
      | false =>
        rw [hf] at hl
        exact (h.locations l hl).upgrade hlegible
    headers := by
      change (d.site.reverseProxy.settle d.rootSeen d.site.locations).customHeaders = []
      rw [h.proxy, ReverseProxy.customHeaders_settle] }

namespace Import

/-- Every site that is imported is sound. -/
theorem ensures_ofNodes (nodes : List Node) (errors : List String) :
    Ensures (ofNodes nodes errors) fun i => i.site.Sound := by
  unfold ofNodes
  dsimp only
  split
  · exact .ok Site.sound_default
  · next s ss _ =>
    obtain ⟨server, redirected, candidates⟩ := chooseServer s ss
    dsimp only
    have hfile : ∀ other, Ensures (fileDraft other redirected candidates) Draft.Sound := by
      intro other
      refine (Ensures.foldlM Draft.keeps_fileStatement Draft.sound_empty other).bind fun d hd => .ok ?_
      have hd' : Draft.Sound (if redirected then { d with site.ssl.httpRedirect := true } else d) := by
        split_ifs
        · exact hd.congr rfl
        · exact hd
      by_cases hmany : 1 < candidates
      · rw [if_pos hmany]
        exact hd'.warn _
      · rw [if_neg hmany]
        exact hd'
    have hupstreams : ∀ (d : Draft) us, d.Sound → Ensures (withUpstreams d us) Draft.Sound := by
      intro d us hd
      cases us with
      | nil => exact .ok hd
      | cons u us =>
        rw [withUpstreams]
        refine Draft.keeps_upstream _ u ?_
        split_ifs
        · exact hd
        · exact hd.warn _
    refine (hfile _).bind fun d hd => ?_
    refine (Ensures.foldlM Draft.keeps_serverStatement hd server.children).bind fun d hd => ?_
    refine (hupstreams d _ hd).bind fun d hd => .ok ?_
    exact hd.finish

theorem ensures_ofText (text : String) : Ensures (ofText text) fun i => i.site.Sound := ensures_ofNodes _ _

end Import
end SiteConf
