import SiteConf.Proofs.Layout
import SiteConf.Proofs.Lineless
import SiteConf.Proofs.Listening

/-!
# Listen directives in another order

A server can have its listen directives in another order, with those for IPv4 in the same order as before, and those
for IPv6, too. Main statement: the import of such a server is the same, but for the port and HTTP/2
(`Import.ofNodes_interleaved`).

The port comes from the last IPv4 address that has one. Without such an address it comes from the IPv6 addresses that
stand before all IPv4 addresses (`Listening.port_foldl`), and so the order counts if there is an IPv4 address at all.
HTTP/2 is what is said last, and the listen directives are not the only ones that say it.
-/

namespace SiteConf
open Text

def Node.isIpv4Listen (n : Node) : Bool := n.isListen && !n.isIpv6

def Node.isIpv6Listen (n : Node) : Bool := n.isListen && n.isIpv6

/-- The same statements, with the listen directives in another order and at other places. -/
structure Interleaved (ns ms : List Node) : Prop where
  others : ns.filter (!·.isListen) = ms.filter (!·.isListen)
  ipv4 : ns.filter Node.isIpv4Listen = ms.filter Node.isIpv4Listen
  ipv6 : ns.filter Node.isIpv6Listen = ms.filter Node.isIpv6Listen

/-- The last port of the addresses. -/
def lastPort (ns : List Node) : Option Nat := (ns.filterMap Node.port?).getLast?

/-- The addresses of one family alone have the say on the port. -/
def PortDecided (ns : List Node) : Prop :=
  (∃ n ∈ ns, n.isIpv4Listen = true ∧ n.port?.isSome = true) ∨
    (∀ n ∈ ns, n.isIpv4Listen = false) ∨ ∀ n ∈ ns, n.isIpv6Listen = true → n.port? = none

/-- What a statement says of HTTP/2. -/
def Node.http2? (n : Node) : Option Bool :=
  if n.isListen then if n.hasFlag "http2" then some true else none
  else if n.isDirective "http2" then some (n.arg 0 == "on") else none

/-- What is said last of HTTP/2. -/
def lastHttp2 (ns : List Node) : Option Bool := (ns.filterMap Node.http2?).getLast?

/-- No address asks for HTTP/2, or nothing switches it off. -/
def Http2Decided (ns : List Node) : Prop :=
  (∀ n ∈ ns, n.isListen = true → n.hasFlag "http2" = false) ∨ ∀ n ∈ ns, n.http2? ≠ some false

/-- The site with the port and HTTP/2 left out. -/
def Site.withoutPortAndHttp2 (s : Site) : Site := { s with listenPort := 0, performance.http2 := false }

/-! ### What the statements say of the listening -/

namespace Listening

/-- All that a statement can do to the listening. -/
theorem read_cases (l : Listening) (n : Node) :
    n.isListen = true ∧ l.read n = l.listen n ∨
    n.isListen = false ∧ n.isDirective "ssl_certificate" = true ∧ n.isDirective "http2" = false ∧
      l.read n = { l with encrypted := true } ∨
    n.isListen = false ∧ n.isDirective "ssl_certificate" = false ∧ n.isDirective "http2" = true ∧
      l.read n = { l with http2 := n.arg 0 == "on" } ∨
    n.isListen = false ∧ n.isDirective "ssl_certificate" = false ∧ n.isDirective "http2" = false ∧ l.read n = l := by
  unfold Node.isListen Node.isDirective
  cases hb : n.isBlock with
  | true => simp [read, hb]
  | false =>
    rw [show l.read n = l.directive n n.name from if_neg (by simp [hb])]
    unfold directive
    split <;> simp_all

theorem ipv6_read (l : Listening) (n : Node) : (l.read n).ipv6 = (l.ipv6 || n.isIpv6Listen) := by
  unfold Node.isIpv6Listen
  obtain ⟨h, hr⟩ | ⟨h, -, -, hr⟩ | ⟨h, -, -, hr⟩ | ⟨h, -, -, hr⟩ := l.read_cases n <;> simp [h, hr, listen]

theorem ipv4Seen_read (l : Listening) (n : Node) : (l.read n).ipv4Seen = (l.ipv4Seen || n.isIpv4Listen) := by
  unfold Node.isIpv4Listen
  obtain ⟨h, hr⟩ | ⟨h, -, -, hr⟩ | ⟨h, -, -, hr⟩ | ⟨h, -, -, hr⟩ := l.read_cases n <;> simp [h, hr, listen]

theorem encrypted_read (l : Listening) (n : Node) :
    (l.read n).encrypted = (l.encrypted || (n.isListen && n.hasFlag "ssl" || n.isDirective "ssl_certificate")) := by
  obtain ⟨h, hr⟩ | ⟨h, hc, -, hr⟩ | ⟨h, hc, -, hr⟩ | ⟨h, hc, -, hr⟩ := l.read_cases n
  · have hc : n.isDirective "ssl_certificate" = false := by
      simp_all [Node.isListen, Node.isDirective]
    simp [h, hc, hr, listen]
  all_goals simp [h, hc, hr]

theorem http2_read (l : Listening) (n : Node) : (l.read n).http2 = n.http2?.getD l.http2 := by
  unfold Node.http2?
  obtain ⟨h, hr⟩ | ⟨h, -, hc, hr⟩ | ⟨h, -, hc, hr⟩ | ⟨h, -, hc, hr⟩ := l.read_cases n
  · cases hf : n.hasFlag "http2" <;> simp [h, hr, listen, hf]
  all_goals simp [h, hc, hr]

theorem port_read_ipv4 {n : Node} (h : n.isIpv4Listen = true) (l : Listening) :
    (l.read n).port = (n.port?.map Int.ofNat).getD l.port := by
  obtain ⟨hlisten, h6⟩ : n.isListen = true ∧ n.isIpv6 = false := by simpa [Node.isIpv4Listen] using h
  rw [read_listen hlisten, listen, h6]
  cases n.port? <;> rfl

theorem port_read_ipv6 {n : Node} (h : n.isIpv6Listen = true) (l : Listening) :
    (l.read n).port = if l.ipv4Seen then l.port else (n.port?.map Int.ofNat).getD l.port := by
  obtain ⟨hlisten, h6⟩ : n.isListen = true ∧ n.isIpv6 = true := by simpa [Node.isIpv6Listen] using h
  rw [read_listen hlisten, listen, h6]
  cases n.port? with
  | none => simp
  | some p => simp

theorem port_read_of_not_listen {n : Node} (h : n.isListen = false) (l : Listening) : (l.read n).port = l.port := by
  obtain ⟨h', -⟩ | ⟨-, -, -, hr⟩ | ⟨-, -, -, hr⟩ | ⟨-, -, -, hr⟩ := l.read_cases n
  · rw [h] at h'
    exact absurd h' Bool.false_ne_true
  all_goals rw [hr]

/-! ### What a server says of the listening -/

theorem foldl_read_any {f : Listening → Bool} {p : Node → Bool} (h : ∀ l n, f (read l n) = (f l || p n))
    (ns : List Node) (l : Listening) : f (ns.foldl read l) = (f l || ns.any p) := by
  induction ns generalizing l with
  | nil => simp
  | cons n ns ih => rw [List.foldl_cons, ih, h, List.any_cons, Bool.or_assoc]

theorem http2_foldl (ns : List Node) (l : Listening) : (ns.foldl read l).http2 = (lastHttp2 ns).getD l.http2 := by
  induction ns generalizing l with
  | nil => rfl
  | cons n ns ih =>
    rw [List.foldl_cons, ih, http2_read, lastHttp2, lastHttp2, List.filterMap_cons]
    cases n.http2? with
    | none => rfl
    | some b => simp [List.getLast?_cons]

end Listening

theorem lastPort_cons (n : Node) (ns : List Node) : lastPort (n :: ns) = (lastPort ns).or n.port? := by
  rw [lastPort, lastPort, List.filterMap_cons]
  cases n.port? with
  | none => simp
  | some p => cases h : (ns.filterMap Node.port?).getLast? <;> simp [List.getLast?_cons, h]

/-- The IPv6 addresses before the first IPv4 address. -/
def leadingIpv6 (ns : List Node) : List Node := (ns.takeWhile (!·.isIpv4Listen)).filter Node.isIpv6Listen

/-- The port that the listen directives of a server stand for. -/
def listenPort? (ns : List Node) : Option Nat :=
  (lastPort (ns.filter Node.isIpv4Listen)).or (lastPort (leadingIpv6 ns))

namespace Listening

/-- After an IPv4 address only the IPv4 addresses count. -/
theorem port_foldl_of_ipv4Seen {l : Listening} (hl : l.ipv4Seen = true) (ns : List Node) :
    (ns.foldl read l).port = ((lastPort (ns.filter Node.isIpv4Listen)).map Int.ofNat).getD l.port := by
  induction ns generalizing l with
  | nil => rfl
  | cons n ns ih =>
    have hseen : (l.read n).ipv4Seen = true := by rw [ipv4Seen_read, hl, Bool.true_or]
    rw [List.foldl_cons, ih hseen]
    cases h4 : n.isIpv4Listen with
    | true =>
      rw [List.filter_cons_of_pos h4, lastPort_cons, port_read_ipv4 h4]
      cases lastPort (ns.filter Node.isIpv4Listen) <;> rfl
    | false =>
      have hport : (l.read n).port = l.port := by
        cases h6 : n.isIpv6Listen with
        | true => rw [port_read_ipv6 h6, hl, if_pos rfl]
        | false => exact port_read_of_not_listen (by simp_all [Node.isIpv4Listen, Node.isIpv6Listen]) l
      rw [List.filter_cons_of_neg (by simp [h4]), hport]

theorem port_foldl {l : Listening} (hl : l.ipv4Seen = false) (ns : List Node) :
    (ns.foldl read l).port = ((listenPort? ns).map Int.ofNat).getD l.port := by
  induction ns generalizing l with
  | nil => rfl
  | cons n ns ih =>
    rw [List.foldl_cons]
    cases h4 : n.isIpv4Listen with
    | true =>
      have hseen : (l.read n).ipv4Seen = true := by rw [ipv4Seen_read, h4, Bool.or_true]
      have hlead : leadingIpv6 (n :: ns) = [] := by simp [leadingIpv6, h4]
      rw [port_foldl_of_ipv4Seen hseen, port_read_ipv4 h4, listenPort?, List.filter_cons_of_pos h4, lastPort_cons,
        hlead]
      cases lastPort (ns.filter Node.isIpv4Listen) with
      | some p => rfl
      | none => cases n.port? <;> rfl
    | false =>
      have hseen : (l.read n).ipv4Seen = false := by rw [ipv4Seen_read, h4, hl, Bool.or_false]
      rw [ih hseen, listenPort?, listenPort?, List.filter_cons_of_neg (by simp [h4])]
      cases h6 : n.isIpv6Listen with
      | true =>
        have hlead : leadingIpv6 (n :: ns) = n :: leadingIpv6 ns := by simp [leadingIpv6, h4, h6]
        rw [hlead, lastPort_cons, port_read_ipv6 h6, hl, if_neg Bool.false_ne_true]
        cases lastPort (ns.filter Node.isIpv4Listen) with
        | some p => rfl
        | none => cases lastPort (leadingIpv6 ns) <;> rfl
      | false =>
        have hlead : leadingIpv6 (n :: ns) = leadingIpv6 ns := by simp [leadingIpv6, h4, h6]
        rw [hlead, port_read_of_not_listen (by simp_all [Node.isIpv4Listen, Node.isIpv6Listen])]

/-- An IPv4 address without a port takes the say from the IPv6 addresses behind it, but not from those before it. -/
example (l : Listening) (hl : l.ipv4Seen = false) :
    ([.directive "listen" ["127.0.0.1"] 0, .directive "listen" ["[::]:8080"] 0].foldl read l).port = l.port ∧
      ([.directive "listen" ["[::]:8080"] 0, .directive "listen" ["127.0.0.1"] 0].foldl read l).port = 8080 :=
  ⟨by rw [port_foldl hl]; rfl, by rw [port_foldl hl]; rfl⟩

end Listening

/-! ### What another order keeps -/

namespace Interleaved
variable {ns ms : List Node}

protected theorem refl (ns : List Node) : Interleaved ns ns := ⟨rfl, rfl, rfl⟩

theorem mem_iff (h : Interleaved ns ms) (n : Node) : n ∈ ns ↔ n ∈ ms := by
  have hmem : ∀ {p : Node → Bool}, ns.filter p = ms.filter p → p n = true → (n ∈ ns ↔ n ∈ ms) := by
    intro p hp hn
    have hboth : n ∈ ns.filter p ↔ n ∈ ms.filter p := by rw [hp]
    simpa [List.mem_filter, hn] using hboth
  cases hlisten : n.isListen with
  | false => exact hmem h.others (by simp [hlisten])
  | true =>
    cases h6 : n.isIpv6 with
    | false => exact hmem h.ipv4 (by simp [Node.isIpv4Listen, hlisten, h6])
    | true => exact hmem h.ipv6 (by simp [Node.isIpv6Listen, hlisten, h6])

theorem any_eq (h : Interleaved ns ms) (p : Node → Bool) : ns.any p = ms.any p := by
  rw [Bool.eq_iff_iff, List.any_eq_true, List.any_eq_true]
  simp only [h.mem_iff]

theorem filter_eq (h : Interleaved ns ms) {p : Node → Bool} (hp : ∀ n, p n = true → n.isListen = false) :
    ns.filter p = ms.filter p := by
  have hothers : ∀ xs : List Node, xs.filter p = (xs.filter (!·.isListen)).filter p := by
    intro xs
    rw [List.filter_filter]
    refine List.filter_congr fun n _ => ?_
    cases hn : p n with
    | false => rfl
    | true => rw [hp n hn]; rfl
  rw [hothers ns, hothers ms, h.others]

theorem leadingIpv6_of_forall {ns : List Node} (h : ∀ n ∈ ns, n.isIpv4Listen = false) :
    leadingIpv6 ns = ns.filter Node.isIpv6Listen := by
  rw [leadingIpv6, List.takeWhile_eq_self_iff.2 fun n hn => by rw [h n hn]; rfl]

theorem lastPort_leadingIpv6 {ns : List Node} (h : ∀ n ∈ ns, n.isIpv6Listen = true → n.port? = none) :
    lastPort (leadingIpv6 ns) = none := by
  rw [lastPort, List.getLast?_eq_none_iff, List.filterMap_eq_nil_iff]
  intro n hn
  obtain ⟨hn, h6⟩ := List.mem_filter.1 hn
  exact h n ((List.takeWhile_sublist _).subset hn) h6

theorem listenPort?_eq (h : Interleaved ns ms) (hd : PortDecided ns) : listenPort? ns = listenPort? ms := by
  rw [listenPort?, listenPort?, ← h.ipv4]
  obtain ⟨n, hn, h4, hport⟩ | hnone | hplain := hd
  · have hsome : (lastPort (ns.filter Node.isIpv4Listen)).isSome = true := by
      obtain ⟨p, hp⟩ := Option.isSome_iff_exists.1 hport
      rw [Option.isSome_iff_ne_none, lastPort, Ne, List.getLast?_eq_none_iff, List.filterMap_eq_nil_iff]
      intro hnone
      exact absurd (hnone n (List.mem_filter.2 ⟨hn, h4⟩)) (by simp [hp])
    rw [Option.or_of_isSome hsome, Option.or_of_isSome hsome]
  · rw [leadingIpv6_of_forall hnone, leadingIpv6_of_forall fun n hn => hnone n ((h.mem_iff n).2 hn), h.ipv6]
  · rw [lastPort_leadingIpv6 hplain, lastPort_leadingIpv6 fun n hn => hplain n ((h.mem_iff n).2 hn)]

theorem lastHttp2_of_forall_ne {ns : List Node} (h : ∀ n ∈ ns, n.http2? ≠ some false) :
    lastHttp2 ns = if ns.any (·.http2?.isSome) then some true else none := by
  induction ns with
  | nil => rfl
  | cons n ns ih =>
    obtain ⟨hn, hns⟩ := List.forall_mem_cons.1 h
    have hlast := ih hns
    rw [lastHttp2] at hlast ⊢
    rw [List.filterMap_cons, List.any_cons]
    cases hsays : n.http2? with
    | none => exact hlast
    | some b =>
      obtain rfl : b = true := by cases b with
        | true => rfl
        | false => exact absurd hsays hn
      rw [List.getLast?_cons, hlast]
      cases ns.any (·.http2?.isSome) <;> rfl

theorem lastHttp2_eq (h : Interleaved ns ms) (hd : Http2Decided ns) : lastHttp2 ns = lastHttp2 ms := by
  obtain hplain | hon := hd
  · -- only the others say anything
    have hothers : ∀ xs : List Node, (∀ n ∈ xs, n ∈ ns) →
        lastHttp2 xs = lastHttp2 (xs.filter (!·.isListen)) := by
      intro xs hxs
      rw [lastHttp2, lastHttp2, List.filterMap_filter]
      congr 1
      refine List.filterMap_congr fun n hn => ?_
      cases hlisten : n.isListen with
      | true => simp [Node.http2?, hlisten, hplain n (hxs n hn) hlisten]
      | false => rfl
    rw [hothers ns fun _ => id, hothers ms fun n => (h.mem_iff n).2, h.others]
  · rw [lastHttp2_of_forall_ne hon, lastHttp2_of_forall_ne fun n hn => hon n ((h.mem_iff n).2 hn), h.any_eq]

/-- The listening that the statements say, but for what the order of the listen directives counts for. -/
theorem foldl_read (h : Interleaved ns ms) (l : Listening) :
    (ns.foldl Listening.read l).ipv6 = (ms.foldl Listening.read l).ipv6 ∧
      (ns.foldl Listening.read l).encrypted = (ms.foldl Listening.read l).encrypted ∧
      (PortDecided ns → (ns.foldl Listening.read l).port = (ms.foldl Listening.read l).port) ∧
      (Http2Decided ns ∨ lastHttp2 ns = lastHttp2 ms →
        (ns.foldl Listening.read l).http2 = (ms.foldl Listening.read l).http2) := by
  refine ⟨?_, ?_, fun hd => ?_, fun hd => ?_⟩
  · rw [Listening.foldl_read_any Listening.ipv6_read, Listening.foldl_read_any Listening.ipv6_read, h.any_eq]
  · rw [Listening.foldl_read_any Listening.encrypted_read, Listening.foldl_read_any Listening.encrypted_read, h.any_eq]
  · cases hl : l.ipv4Seen with
    | true => rw [Listening.port_foldl_of_ipv4Seen hl, Listening.port_foldl_of_ipv4Seen hl, h.ipv4]
    | false => rw [Listening.port_foldl hl, Listening.port_foldl hl, h.listenPort?_eq hd]
  · rw [Listening.http2_foldl, Listening.http2_foldl, hd.elim h.lastHttp2_eq id]

/-- A run over a server with its listen directives in another order differs in the listening only. -/
theorem run_eq (h : Interleaved ns ms) (hports : ∀ n ∈ ns, n.isListen = true → n.ReadablePort) (d : Draft) :
    ∃ r : Except NumberFault Draft, ∀ xs ∈ [ns, ms],
      xs.foldlM Draft.serverStatement d = r.map (·.withListening (xs.foldl Listening.read d.listening)) := by
  refine ⟨(ns.filter (!·.isListen)).foldlM Draft.serverStatement d, ?_⟩
  simp only [List.forall_mem_cons]
  refine ⟨Draft.run_eq hports d, ?_, by simp⟩
  rw [h.others]
  exact Draft.run_eq (fun n hn => hports n ((h.mem_iff n).2 hn)) d

theorem isHttpsRedirect_eq (h : Interleaved ns ms) (args : List String) (line : Int) :
    (Node.block "server" args line ns).isHttpsRedirect = (Node.block "server" args line ms).isHttpsRedirect := by
  have hreturn : ns.filter (·.name == "return") = ms.filter (·.name == "return") := by
    refine h.filter_eq fun n hn => ?_
    rw [Node.isListen, Node.isDirective, beq_iff_eq.1 hn]
    exact Bool.and_false _
  unfold Node.isHttpsRedirect
  dsimp only [Node.children]
  rw [h.any_eq Node.isBlock, hreturn, h.any_eq fun n => n.name == "listen" && n.args.contains "ssl"]

end Interleaved

/-! ### A file with another order -/

/-- The nodes are the same, or the first one of a pair and the other one. -/
def SameOr (s t a b : Node) : Prop := a = b ∨ a = s ∧ b = t

theorem forall₂_sameOr (s t : Node) (pre post : List Node) :
    List.Forall₂ (SameOr s t) (pre ++ s :: post) (pre ++ t :: post) :=
  List.rel_append (List.forall₂_same.2 fun _ _ => .inl rfl)
    (.cons (.inr ⟨rfl, rfl⟩) (List.forall₂_same.2 fun _ _ => .inl rfl))

namespace Import

theorem chooseServer_sameOr {s t x y : Node} {xs ys : List Node} (hst : s.isHttpsRedirect = t.isHttpsRedirect)
    (h : List.Forall₂ (SameOr s t) (x :: xs) (y :: ys)) :
    SameOr s t (chooseServer x xs).1 (chooseServer y ys).1 ∧ (chooseServer x xs).2 = (chooseServer y ys).2 := by
  have hfilter : List.Forall₂ (SameOr s t) ((x :: xs).filter (!·.isHttpsRedirect))
      ((y :: ys).filter (!·.isHttpsRedirect)) := by
    refine List.rel_filter (fun a b hab => ?_) h
    obtain rfl | ⟨rfl, rfl⟩ := hab
    · rfl
    · dsimp only
      rw [hst]
  have hlength : xs.length = ys.length := Nat.succ.inj h.length_eq
  unfold chooseServer
  cases hx : (x :: xs).filter (!·.isHttpsRedirect) with
  | nil =>
    rw [hx] at hfilter
    rw [List.forall₂_nil_left_iff.1 hfilter, hlength]
    exact ⟨(List.forall₂_cons.1 h).1, rfl⟩
  | cons c cs =>
    rw [hx] at hfilter
    obtain ⟨d, ds, hcd, hcs, hy⟩ := List.forall₂_cons_left_iff.1 hfilter
    rw [hy]
    dsimp only
    rw [hlength, hcs.length_eq]
    exact ⟨hcd, rfl⟩

/-- The import of a server, after the file level. -/
def ofServer (d : Draft) (upstreams : List Node) (server : Node) : Except NumberFault Site := do
  let d ← server.children.foldlM Draft.serverStatement d
  let d ← withUpstreams d upstreams
  pure d.finish.site

theorem map_site_ofNodes {nodes : List Node} {s : Node} {ss : List Node} (errors : List String)
    (hs : (fileScope nodes).filter Node.isServer = s :: ss) :
    (ofNodes nodes errors).map Import.site = (do
      let d ← fileDraft ((fileScope nodes).filter fun n => !n.isServer && !n.isUpstream) (chooseServer s ss).2.1
        (chooseServer s ss).2.2
      ofServer d ((fileScope nodes).filter Node.isUpstream) (chooseServer s ss).1) := by
  unfold ofNodes ofServer
  dsimp only
  rw [hs]
  dsimp only
  cases fileDraft _ (chooseServer s ss).2.1 (chooseServer s ss).2.2 with
  | error e => rfl
  | ok d =>
    dsimp only [bind, Except.bind]
    cases (chooseServer s ss).1.children.foldlM Draft.serverStatement d with
    | error e => rfl
    | ok d =>
      dsimp only
      cases withUpstreams d _ <;> rfl

theorem ofServer_interleaved {ns ms : List Node} (h : Interleaved ns ms)
    (hports : ∀ n ∈ ns, n.isListen = true → n.ReadablePort) (d : Draft) (us : List Node) (args : List String)
    (line : Int) :
    ∃ r : Except NumberFault Site, ∀ xs ∈ [ns, ms], ofServer d us (.block "server" args line xs) =
      r.map (·.withListening (xs.foldl Listening.read d.listening)) := by
  obtain ⟨r, hr⟩ := h.run_eq hports d
  refine ⟨do
    let d ← r
    let d ← withUpstreams d us
    pure d.finish.site, fun xs hxs => ?_⟩
  unfold ofServer
  rw [Node.children, hr xs hxs]
  cases r with
  | error e => rfl
  | ok d' =>
    dsimp only [bind, Except.bind, Except.map]
    rw [Draft.withUpstreams_withListening]
    cases withUpstreams d' us with
    | error e => rfl
    | ok d'' =>
      dsimp only [Except.map]
      rw [Draft.site_finish_withListening]
      rfl

theorem map_site_ofNodes_withoutLines (nodes : List Node) (errors : List String) :
    (ofNodes (withoutLines nodes) errors).map Import.site = (ofNodes nodes errors).map Import.site := by
  rw [ofNodes_withoutLines]
  cases ofNodes nodes errors <;> rfl

variable {xs ys pre post ns ms : List Node} {args : List String}

/-- Files that differ in the listen directives of a server have the same site, or sites that differ in the listening
only. -/
theorem map_site_of_interleaved (errors errors' : List String)
    (hx : withoutLines (fileScope xs) = pre ++ .block "server" args 0 ns :: post)
    (hy : withoutLines (fileScope ys) = pre ++ .block "server" args 0 ms :: post)
    (h : Interleaved ns ms) (hports : ∀ n ∈ ns, n.isListen = true → n.ReadablePort) :
    (ofNodes xs errors).map Import.site = (ofNodes ys errors').map Import.site ∨
      ∃ (r : Except NumberFault Site) (l : Listening),
        (ofNodes xs errors).map Import.site = r.map (·.withListening (ns.foldl Listening.read l)) ∧
        (ofNodes ys errors').map Import.site = r.map (·.withListening (ms.foldl Listening.read l)) := by
  rw [← map_site_ofNodes_withoutLines xs, ← map_site_ofNodes_withoutLines ys]
  rw [← fileScope_withoutLines] at hx hy
  -- the servers are the same, but for one
  have hservers : List.Forall₂ (SameOr (.block "server" args 0 ns) (.block "server" args 0 ms))
      ((fileScope (withoutLines xs)).filter Node.isServer) ((fileScope (withoutLines ys)).filter Node.isServer) := by
    rw [hx, hy, List.filter_append, List.filter_append, List.filter_cons_of_pos rfl, List.filter_cons_of_pos rfl]
    exact forall₂_sameOr ..
  have hdrop : ∀ (p : Node → Bool) (children : List Node), p (.block "server" args 0 children) = false →
      (pre ++ .block "server" args 0 children :: post).filter p = pre.filter p ++ post.filter p := by
    intro p children hp
    rw [List.filter_append, List.filter_cons_of_neg (by simp [hp])]
  have hupstreams : (fileScope (withoutLines xs)).filter Node.isUpstream =
      (fileScope (withoutLines ys)).filter Node.isUpstream := by
    rw [hx, hy, hdrop _ ns rfl, hdrop _ ms rfl]
  have hother : (fileScope (withoutLines xs)).filter (fun n => !n.isServer && !n.isUpstream) =
      (fileScope (withoutLines ys)).filter (fun n => !n.isServer && !n.isUpstream) := by
    rw [hx, hy, hdrop _ ns rfl, hdrop _ ms rfl]
  cases hxs : (fileScope (withoutLines xs)).filter Node.isServer with
  | nil =>
    rw [hx, List.filter_append, List.filter_cons_of_pos rfl] at hxs
    simp at hxs
  | cons a as =>
    rw [hxs] at hservers
    obtain ⟨b, bs, -, -, hys⟩ := List.forall₂_cons_left_iff.1 hservers
    rw [hys] at hservers
    obtain ⟨hchosen, hcounts⟩ := chooseServer_sameOr (h.isHttpsRedirect_eq args 0) hservers
    rw [map_site_ofNodes errors hxs, map_site_ofNodes errors' hys, hother, hupstreams, hcounts]
    cases fileDraft _ (chooseServer b bs).2.1 (chooseServer b bs).2.2 with
    | error e => exact .inl rfl
    | ok d =>
      obtain hsame | ⟨hs, ht⟩ := hchosen
      · rw [hsame]
        exact .inl rfl
      · rw [hs, ht]
        obtain ⟨r, hr⟩ := ofServer_interleaved h hports d ((fileScope (withoutLines ys)).filter Node.isUpstream) args 0
        exact .inr ⟨r, d.listening, hr ns (by simp), hr ms (by simp)⟩

theorem map_eq_of_interleaved {α : Type} {f : Site → α} (errors errors' : List String)
    (hx : withoutLines (fileScope xs) = pre ++ .block "server" args 0 ns :: post)
    (hy : withoutLines (fileScope ys) = pre ++ .block "server" args 0 ms :: post)
    (h : Interleaved ns ms) (hports : ∀ n ∈ ns, n.isListen = true → n.ReadablePort)
    (hf : ∀ (s : Site) (l : Listening),
      f (s.withListening (ns.foldl Listening.read l)) = f (s.withListening (ms.foldl Listening.read l))) :
    (ofNodes xs errors).map (fun i => f i.site) = (ofNodes ys errors').map (fun i => f i.site) := by
  have hmap : ∀ x : Except NumberFault Import, x.map (fun i => f i.site) = (x.map Import.site).map f := by
    intro x
    cases x <;> rfl
  rw [hmap, hmap]
  obtain hsame | ⟨r, l, hns, hms⟩ := map_site_of_interleaved errors errors' hx hy h hports
  · rw [hsame]
  · rw [hns, hms]
    cases r with
    | error e => rfl
    | ok s => exact congrArg Except.ok (hf s l)

theorem listening_fileDraft {other : List Node} {redirected : Bool} {candidates : Nat} {d : Draft}
    (h : fileDraft other redirected candidates = .ok d) : d.listening = ⟨80, false, false, false, false⟩ := by
  obtain ⟨rate, ws, -, rfl⟩ := changes_fileDraft other redirected candidates d h
  rfl

theorem fst_chooseServer_nil (s : Node) : (chooseServer s []).1 = s := by
  unfold chooseServer
  cases h : s.isHttpsRedirect <;> simp [h]

theorem fields_ofNodes {errors : List String} {i : Import}
    (hx : withoutLines (fileScope xs) = pre ++ .block "server" args 0 ns :: post)
    (hports : ∀ n ∈ ns, n.isListen = true → n.ReadablePort) (hone : ∀ n ∈ pre ++ post, n.isServer = false)
    (hi : ofNodes xs errors = .ok i) :
    i.site.listenPort = ((listenPort? ns).map Int.ofNat).getD 80 ∧ i.site.listenIpv6 = ns.any Node.isIpv6Listen ∧
      i.site.ssl.enabled = ns.any (fun n => n.isListen && n.hasFlag "ssl" || n.isDirective "ssl_certificate") ∧
      i.site.performance.http2 = (lastHttp2 ns).getD false := by
  obtain ⟨hpre, hpost⟩ := List.forall_mem_append.1 hone
  have hserver : (fileScope (withoutLines xs)).filter Node.isServer = [.block "server" args 0 ns] := by
    rw [fileScope_withoutLines, hx, List.filter_append, List.filter_cons_of_pos rfl,
      List.filter_eq_nil_iff.2 fun n hn => by simp [hpre n hn],
      List.filter_eq_nil_iff.2 fun n hn => by simp [hpost n hn]]
    rfl
  have hsite : (ofNodes (withoutLines xs) errors).map Import.site = .ok i.site := by
    rw [map_site_ofNodes_withoutLines, hi]
    rfl
  rw [map_site_ofNodes errors hserver, fst_chooseServer_nil] at hsite
  obtain ⟨d, hd, hsite⟩ := exists_of_bind_eq_ok hsite
  obtain ⟨r, hr⟩ := ofServer_interleaved (.refl ns) hports d
    ((fileScope (withoutLines xs)).filter Node.isUpstream) args 0
  rw [hr ns (by simp), listening_fileDraft hd] at hsite
  cases r with
  | error e => cases hsite
  | ok s =>
    have hi : i.site = s.withListening (ns.foldl Listening.read ⟨80, false, false, false, false⟩) :=
      (Except.ok.inj hsite).symm
    rw [hi]
    exact ⟨Listening.port_foldl rfl ns, (Listening.foldl_read_any Listening.ipv6_read ns _).trans (Bool.false_or _),
      (Listening.foldl_read_any Listening.encrypted_read ns _).trans (Bool.false_or _), Listening.http2_foldl ns _⟩

/-- A server with its listen directives in another order, those of each family in the same one. The import is the
same, but for the port and HTTP/2. The port is the same if the addresses of one family alone have the say on it.
HTTP/2 is the same if nothing switches it off, if no listen directive asks for it, or if what is said last stays. For
the only server of a file all four fields are known. -/
theorem ofNodes_interleaved (errors errors' : List String)
    (hx : withoutLines (fileScope xs) = pre ++ .block "server" args 0 ns :: post)
    (hy : withoutLines (fileScope ys) = pre ++ .block "server" args 0 ms :: post)
    (h : Interleaved ns ms) (hports : ∀ n ∈ ns, n.isListen = true → n.ReadablePort) :
    (ofNodes xs errors).map (·.site.withoutPortAndHttp2) = (ofNodes ys errors').map (·.site.withoutPortAndHttp2) ∧
      (PortDecided ns →
        (ofNodes xs errors).map (·.site.listenPort) = (ofNodes ys errors').map (·.site.listenPort)) ∧
      (Http2Decided ns ∨ lastHttp2 ns = lastHttp2 ms →
        (ofNodes xs errors).map (·.site.performance.http2) = (ofNodes ys errors').map (·.site.performance.http2)) ∧
      ((∀ n ∈ pre ++ post, n.isServer = false) → ∀ i, ofNodes xs errors = .ok i →
        i.site.listenPort = ((listenPort? ns).map Int.ofNat).getD 80 ∧ i.site.listenIpv6 = ns.any Node.isIpv6Listen ∧
          i.site.ssl.enabled = ns.any (fun n => n.isListen && n.hasFlag "ssl" || n.isDirective "ssl_certificate") ∧
          i.site.performance.http2 = (lastHttp2 ns).getD false) := by
  refine ⟨map_eq_of_interleaved errors errors' hx hy h hports fun s l => ?_,
    fun hd => map_eq_of_interleaved (f := (·.listenPort)) errors errors' hx hy h hports fun s l => ?_,
    fun hd => map_eq_of_interleaved (f := (·.performance.http2)) errors errors' hx hy h hports fun s l => ?_,
    fun hone i hi => fields_ofNodes hx hports hone hi⟩
  all_goals obtain ⟨hipv6, hencrypted, hport, hhttp2⟩ := h.foldl_read l
  · simp only [Site.withoutPortAndHttp2, Site.withListening, hipv6, hencrypted]
  · exact hport hd
  · exact hhttp2 hd

theorem ofNodes_interleaved_pair :
    let v4 : Int → Node := .directive "listen" ["127.0.0.1:8080", "http2"]
    let v6 : Int → Node := .directive "listen" ["[::]:8443", "ssl"]
    let xs : List Node := [.block "server" [] 1 [v4 2, v6 3]]
    let ys : List Node := [.block "server" [] 1 [v6 2, v4 3]]
    (ofNodes xs []).map (·.site.withoutPortAndHttp2) = (ofNodes ys []).map (·.site.withoutPortAndHttp2) ∧
      (ofNodes xs []).map (·.site.listenPort) = (ofNodes ys []).map (·.site.listenPort) ∧
      (ofNodes xs []).map (·.site.performance.http2) = (ofNodes ys []).map (·.site.performance.http2) ∧
      ∀ i, ofNodes xs [] = .ok i → i.site.listenPort = 8080 ∧ i.site.performance.http2 = true := by
  intro v4 v6 xs ys
  have hx : withoutLines (fileScope xs) = [] ++ .block "server" [] 0 [v4 0, v6 0] :: [] := rfl
  have hy : withoutLines (fileScope ys) = [] ++ .block "server" [] 0 [v6 0, v4 0] :: [] := rfl
  have hports : ∀ n ∈ [v4 0, v6 0], n.isListen = true → n.ReadablePort := by decide
  have hsame : Interleaved
      [.directive "listen" ["127.0.0.1:8080", "http2"] 0, .directive "listen" ["[::]:8443", "ssl"] 0]
      [.directive "listen" ["[::]:8443", "ssl"] 0, .directive "listen" ["127.0.0.1:8080", "http2"] 0] := ⟨rfl, rfl, rfl⟩
  obtain ⟨hsite, hport, hhttp2, hfields⟩ := ofNodes_interleaved [] [] hx hy hsame hports
  refine ⟨hsite, hport (.inl ⟨v4 0, List.mem_cons_self, by decide, by decide⟩), hhttp2 (.inr rfl),
    fun i hi => ?_⟩
  obtain ⟨hport, -, -, hhttp2⟩ := hfields (by simp) i hi
  exact ⟨hport.trans (by decide), hhttp2.trans (by decide)⟩

end Import
end SiteConf
