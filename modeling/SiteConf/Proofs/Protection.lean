import SiteConf.Proofs.Ledger

/-!
# What an import reads of the protection of a site

The protection of an imported site is what the directives of its server say one after the other
(`Protection.read`), with a rate limit if the file has a zone for it, and a redirect if another server
sends plain requests on to https. No other statement of a text has a part in it, and neither has what is
settled at the end (`Import.ensures_protection`).
-/

namespace SiteConf
open Text

/-- The settings that keep requests out of a site, or keep from them what is no business of theirs. -/
structure Protection where
  hideVersion : Bool
  securityHeaders : Bool
  rateLimiting : Bool
  allowlist : List String
  denylist : List String
  basicAuth : Bool
  encrypted : Bool
  protocols : List String
  hsts : Bool
  stapling : Bool
  httpRedirect : Bool

def Site.protection (s : Site) : Protection where
  hideVersion := s.security.hideVersion
  securityHeaders := s.security.securityHeaders
  rateLimiting := s.security.rateLimiting
  allowlist := s.security.ipAllowlist
  denylist := s.security.ipDenylist
  basicAuth := s.security.basicAuth
  encrypted := s.ssl.enabled
  protocols := s.ssl.protocols
  hsts := s.ssl.enableHsts
  stapling := s.ssl.enableOcsp
  httpRedirect := s.ssl.httpRedirect

namespace Protection

/-- A header by its name in lower case. -/
def header (p : Protection) (name : String) : Protection :=
  if name = "strict-transport-security" then { p with hsts := true }
  else if (hardeningHeaders.map fun h => String.ofList (lower h.1)).contains name then
    { p with securityHeaders := true }
  else p

/-- The protection after a directive of the name. -/
def directive (p : Protection) (n : Node) : String → Protection
  | "listen" => { p with encrypted := p.encrypted || (n.args.drop 1).contains "ssl" }
  | "ssl_certificate" => { p with encrypted := true }
  | "ssl_protocols" => { p with protocols := n.args }
  | "ssl_stapling" => { p with stapling := n.arg 0 == "on" }
  | "server_tokens" => { p with hideVersion := n.arg 0 == "off" }
  | "add_header" => p.header (String.ofList (lower (n.arg 0)))
  | "allow" => { p with allowlist := p.allowlist ++ [n.arg 0] }
  | "deny" => { p with denylist := p.denylist ++ [n.arg 0] }
  | "auth_basic" => { p with basicAuth := n.arg 0 != "off" }
  | _ => p

/-- The directives that have a part in the protection. -/
def names : List String :=
  ["listen", "ssl_certificate", "ssl_protocols", "ssl_stapling", "server_tokens", "add_header", "allow", "deny",
    "auth_basic"]

theorem directive_eq_self {name : String} (h : name ∉ names) (p : Protection) (n : Node) :
    p.directive n name = p := by
  unfold directive
  split
  case h_10 => rfl
  all_goals exact absurd (by decide) h

/-- The protection after a statement of the server. -/
def read (p : Protection) (n : Node) : Protection := if n.isBlock then p else p.directive n n.name

/-- The protection before the server is read. -/
def start (zone redirected : Bool) : Protection :=
  { Site.blank.protection with rateLimiting := zone, httpRedirect := redirected }

end Protection

/-! ### Statements of a server -/

namespace Draft

def protection (d : Draft) : Protection := d.site.protection

theorem protection_unmodelled (d : Draft) (n : Node) : (d.unmodelled n).protection = d.protection := by
  unfold unmodelled
  split_ifs <;> rfl

theorem Sets.protection_eq {d d' : Draft} {n : Node} {name : String} (h : Sets d n name d') :
    d'.protection = d.protection.directive n name := by
  cases h
  case strictTransport h =>
    show _ = d.protection.header _
    rw [Protection.header, if_pos h]
    rfl
  case hardening hs h =>
    show _ = d.protection.header _
    rw [Protection.header, if_neg hs, if_pos h]
    rfl
  case otherHeader hs h =>
    show _ = d.protection.header _
    rw [Protection.header, if_neg hs, if_neg h, protection_unmodelled]
  case authOff h =>
    show _ = { d.protection with basicAuth := n.arg 0 != "off" }
    rw [h]
    rfl
  case auth h =>
    show _ = { d.protection with basicAuth := n.arg 0 != "off" }
    rw [bne_iff_ne.2 h]
    rfl
  all_goals rfl

theorem ensures_protection_directive (d : Draft) (n : Node) :
    Ensures (d.directive n) fun d' => d'.protection = d.protection.directive n n.name := by
  refine (d.sets_directive n).mono ?_
  rintro d' (⟨habsorbed, rfl⟩ | ⟨-, -, h⟩ | ⟨-, hnone, rfl⟩)
  · have hname : n.name ∉ Protection.names :=
      (by decide : ∀ a ∈ absorbedDirectives, a ∉ Protection.names) _ (List.contains_iff_mem.1 habsorbed)
    exact (Protection.directive_eq_self hname _ n).symm
  · exact h.protection_eq
  · -- all names with a part in the protection are in the table
    have hname : n.name ∉ Protection.names := by
      intro hmem
      have hsome := (by decide : ∀ a ∈ Protection.names, (serverDirectives.lookup a).isSome = true) _ hmem
      rw [hnone] at hsome
      cases hsome
    rw [Protection.directive_eq_self hname, protection_unmodelled]

/-- Whatever stands in a location block, the protection of the site stays as it is. -/
theorem ensures_protection_location (d : Draft) (n : Node) :
    Ensures (d.location n) fun d' => d'.protection = d.protection := by
  refine (d.changes_location n).mono ?_
  rintro _ ⟨burst, caching, locations, ws, -, rfl⟩
  rfl

theorem ensures_protection_serverStatement (d : Draft) (n : Node) :
    Ensures (d.serverStatement n) fun d' => d'.protection = d.protection.read n := by
  unfold serverStatement
  split
  · exact ensures_protection_location d _
  · exact .ok (protection_unmodelled d _)
  · exact ensures_protection_directive d _

/-- The statements of a server have their say on the protection one after the other. -/
theorem ensures_protection_run (d : Draft) (ns : List Node) :
    Ensures (ns.foldlM serverStatement d) fun d' => d'.protection = ns.foldl Protection.read d.protection := by
  induction ns generalizing d with
  | nil => exact .ok rfl
  | cons n ns ih =>
    rw [List.foldlM_cons, List.foldl_cons]
    refine (ensures_protection_serverStatement d n).bind fun e he => ?_
    rw [← he]
    exact ih e

/-! ### Around the server -/

theorem protection_finish (d : Draft) : d.finish.protection = d.protection := by
  have hssl : ∃ preset ciphers, d.site.ssl.settle d.preferServerCiphers = { d.site.ssl with preset, ciphers } := by
    unfold Ssl.settle
    split
    · exact ⟨_, _, rfl⟩
    · split_ifs <;> exact ⟨_, _, rfl⟩
  obtain ⟨preset, ciphers, h⟩ := hssl
  rw [finish_eq, h]
  rfl

end Draft

namespace Import

theorem ensures_protection_fileDraft (other : List Node) (redirected : Bool) (candidates : Nat) :
    Ensures (fileDraft other redirected candidates) fun d =>
      d.protection = .start (other.any Node.isZone) redirected := by
  refine (changes_fileDraft other redirected candidates).mono ?_
  rintro _ ⟨rate, ws, -, rfl⟩
  rfl

theorem ensures_protection_withUpstreams (d : Draft) (us : List Node) :
    Ensures (withUpstreams d us) fun d' => d'.protection = d.protection := by
  refine (d.changes_withUpstreams us).mono ?_
  rintro _ ⟨upstream, ws, -, rfl⟩
  rfl

/-- The protection of an imported site is what the statements of its server say, one after the other. -/
theorem ensures_protection {nodes : List Node} {s : Node} {ss : List Node} (errors : List String)
    (hs : (fileScope nodes).filter Node.isServer = s :: ss) :
    Ensures (ofNodes nodes errors) fun i => i.site.protection =
      (chooseServer s ss).1.children.foldl Protection.read
        (.start (((fileScope nodes).filter fun n => !n.isServer && !n.isUpstream).any Node.isZone)
          (chooseServer s ss).2.1) := by
  unfold ofNodes
  dsimp only
  rw [hs]
  dsimp only
  refine (ensures_protection_fileDraft _ _ _).bind fun d hd => ?_
  refine (Draft.ensures_protection_run d _).bind fun e he => ?_
  refine (ensures_protection_withUpstreams e _).bind fun f hf => .ok ?_
  show f.finish.protection = _
  rw [Draft.protection_finish, hf, he, hd]

end Import
end SiteConf
