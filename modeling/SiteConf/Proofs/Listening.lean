import SiteConf.Proofs.Ledger
import SiteConf.Proofs.Settled

/-!
# Where a server listens, apart from all else

Of a draft, the `Listening` is what the listen directives of a server set. A few other directives set parts of it,
too, but none reads it, and the listen directives touch nothing else. So a run over a server can be taken apart: the
draft is that of the run without the listen directives, with the listening that the statements say one after the
other (`Draft.run_eq`).
-/

namespace SiteConf
open Text

structure Listening where
  port : Int
  ipv6 : Bool
  ipv4Seen : Bool
  encrypted : Bool
  http2 : Bool

namespace Node

def isListen (n : Node) : Bool := n.isDirective "listen"

/-- The characters of an address behind its last colon. -/
def portChars (n : Node) : List Char := afterLast ':' (n.arg 0).toList

/-- The port of an address, if it ends in one that is not zero. -/
def port? (n : Node) : Option Nat :=
  if isNumber n.portChars ∧ 0 < digitsValue n.portChars then some (digitsValue n.portChars) else none

/-- An address whose port is no longer than numbers may be. -/
def ReadablePort (n : Node) : Prop := isNumber n.portChars = true → n.portChars.length ≤ digitLimit

instance (n : Node) : Decidable n.ReadablePort := inferInstanceAs (Decidable (_ → _))

def isIpv6 (n : Node) : Bool := startsWith (n.arg 0) "["

/-- The flag stands behind the address. -/
def hasFlag (n : Node) (flag : String) : Bool := (n.args.drop 1).contains flag

end Node

namespace Listening

def listen (l : Listening) (n : Node) : Listening where
  port := match n.port? with
    | some p => if n.isIpv6 && l.ipv4Seen then l.port else p
    | none => l.port
  ipv6 := l.ipv6 || n.isIpv6
  ipv4Seen := l.ipv4Seen || !n.isIpv6
  encrypted := l.encrypted || n.hasFlag "ssl"
  http2 := l.http2 || n.hasFlag "http2"

/-- The listening after a directive of the name. -/
def directive (l : Listening) (n : Node) : String → Listening
  | "listen" => l.listen n
  | "ssl_certificate" => { l with encrypted := true }
  | "http2" => { l with http2 := n.arg 0 == "on" }
  | _ => l

def names : List String := ["listen", "ssl_certificate", "http2"]

theorem directive_eq_self {name : String} (h : name ∉ names) (l : Listening) (n : Node) : l.directive n name = l := by
  unfold directive
  split
  case h_4 => rfl
  all_goals exact absurd (by decide) h

/-- The listening after a statement of the server. -/
def read (l : Listening) (n : Node) : Listening := if n.isBlock then l else l.directive n n.name

theorem read_block (l : Listening) (name : String) (args : List String) (line : Int) (children : List Node) :
    l.read (.block name args line children) = l := rfl

theorem read_listen {n : Node} (h : n.isListen = true) (l : Listening) : l.read n = l.listen n := by
  rw [Node.isListen, Node.isDirective, Bool.and_eq_true, Bool.not_eq_true', beq_iff_eq] at h
  rw [read, h.1, if_neg Bool.false_ne_true, h.2]
  rfl

end Listening

def Site.withListening (s : Site) (l : Listening) : Site :=
  { s with
    listenPort := l.port
    listenIpv6 := l.ipv6
    ssl := { s.ssl with enabled := l.encrypted }
    performance := { s.performance with http2 := l.http2 } }

namespace Draft

def listening (d : Draft) : Listening where
  port := d.site.listenPort
  ipv6 := d.site.listenIpv6
  ipv4Seen := d.ipv4Seen
  encrypted := d.site.ssl.enabled
  http2 := d.site.performance.http2

def withListening (d : Draft) (l : Listening) : Draft :=
  { d with site := d.site.withListening l, ipv4Seen := l.ipv4Seen }

@[simp] theorem listening_withListening (d : Draft) (l : Listening) : (d.withListening l).listening = l := rfl

@[simp] theorem withListening_listening (d : Draft) : d.withListening d.listening = d := rfl

/-! ### Directives -/

theorem portOf_arg {n : Node} (h : n.ReadablePort) :
    portOf (n.arg 0) = .ok (if isNumber n.portChars then some (digitsValue n.portChars) else none) := by
  unfold portOf
  rw [show afterLast ':' (n.arg 0).toList = n.portChars from rfl]
  dsimp only
  split_ifs with hn
  · rw [readNumber_eq_ok (h hn)]
    rfl
  · rfl

theorem listen_eq_withListening (d : Draft) {n : Node} (h : n.ReadablePort) :
    listen d n = .ok (d.withListening (d.listening.listen n)) := by
  have hport : (match (if isNumber n.portChars then some (digitsValue n.portChars) else none) with
      | some p => if 0 < p && !(n.isIpv6 && d.ipv4Seen) then (p : Int) else d.site.listenPort
      | none => d.site.listenPort) = (d.listening.listen n).port := by
    unfold Listening.listen Node.port?
    by_cases hn : isNumber n.portChars = true
    · by_cases hpos : 0 < digitsValue n.portChars
      · rw [if_pos hn, if_pos ⟨hn, hpos⟩]
        cases hseen : n.isIpv6 && d.ipv4Seen <;> simp [hpos, hseen, listening]
      · rw [if_pos hn, if_neg fun hp => hpos hp.2]
        simp [hpos, listening]
    · rw [if_neg hn, if_neg fun hp => hn hp.1]
      rfl
  unfold listen
  rw [portOf_arg h]
  show Except.ok _ = Except.ok _
  rw [withListening, Site.withListening, ← hport]
  rfl

/-- A directive of the name touches the listening as its name says, and reads nothing of it. -/
def Carries (f : Effect) (name : String) : Prop :=
  ∀ d n l, f (withListening d l) n = (f d n).map (·.withListening (l.directive n name))

theorem carries_plain {f : Draft → Node → Draft} {name : String}
    (hf : ∀ d n l, f (withListening d l) n = (f d n).withListening (l.directive n name)) : Carries (plain f) name := by
  intro d n l
  rw [plain, hf]
  rfl

theorem unmodelled_withListening (d : Draft) (n : Node) (l : Listening) :
    (d.withListening l).unmodelled n = (d.unmodelled n).withListening l := by
  show (if d.locationSeen then _ else _) = _
  unfold unmodelled
  split_ifs <;> rfl

theorem carries_sslCiphers : Carries (plain sslCiphers) "ssl_ciphers" := by
  refine carries_plain fun d n l => ?_
  unfold sslCiphers
  dsimp only
  split <;> rfl

theorem carries_addHeader : Carries (plain addHeader) "add_header" := by
  refine carries_plain fun d n l => ?_
  unfold addHeader
  rw [unmodelled_withListening]
  dsimp only
  split_ifs <;> rfl

theorem carries_authBasic : Carries (plain authBasic) "auth_basic" := by
  refine carries_plain fun d n l => ?_
  unfold authBasic
  split_ifs <;> rfl

theorem carries_accessLog : Carries (plain accessLog) "access_log" := by
  refine carries_plain fun d n l => ?_
  unfold accessLog
  split_ifs <;> rfl

theorem carries_errorLog : Carries (plain errorLog) "error_log" := by
  refine carries_plain fun d n l => ?_
  unfold errorLog
  dsimp only
  split_ifs
  · rfl
  · split <;> rfl

theorem carries_clientMaxBodySize : Carries clientMaxBodySize "client_max_body_size" := by
  intro d n l
  unfold clientMaxBodySize
  split
  · rfl
  · next ds suffix _ =>
    cases readNumber ds with
    | error e => rfl
    | ok size =>
      cases suffix with
      | kilo =>
        simp only [bind, Except.bind]
        cases megabytes size <;> rfl
      | none => rfl
      | mega => rfl
      | giga => rfl

theorem carries_keepaliveTimeout : Carries keepaliveTimeout "keepalive_timeout" := by
  intro d n l
  unfold keepaliveTimeout
  cases readSeconds (n.arg 0) with
  | error e => rfl
  | ok s => cases s <;> rfl

theorem carries_serverDirectives : ∀ e ∈ serverDirectives, e.1 ≠ "listen" → Carries e.2 e.1 := by
  simp only [serverDirectives, List.forall_mem_cons]
  refine ⟨fun h => (h rfl).elim, ?_, ?_, ?_, ?_, ?_, ?_, fun _ => carries_sslCiphers, ?_, ?_, ?_,
    fun _ => carries_addHeader, ?_, ?_, fun _ => carries_authBasic, ?_, ?_, ?_, ?_, ?_, ?_,
    fun _ => carries_clientMaxBodySize, fun _ => carries_keepaliveTimeout, fun _ => carries_accessLog,
    fun _ => carries_errorLog, by simp⟩
  all_goals exact fun _ => carries_plain fun _ _ _ => rfl

theorem carries_directive (d : Draft) {n : Node} (hn : n.name ≠ "listen") (l : Listening) :
    directive (d.withListening l) n = (directive d n).map (·.withListening (l.directive n n.name)) := by
  unfold directive
  split_ifs with habsorbed
  · have hname : n.name ∉ Listening.names := by
      intro hmem
      have hnot : ∀ name ∈ Listening.names, absorbedDirectives.contains name = false := by decide
      rw [hnot _ hmem] at habsorbed
      exact Bool.false_ne_true habsorbed
    rw [Listening.directive_eq_self hname]
    rfl
  · split
    · next f hf => exact carries_serverDirectives _ (mem_of_lookup_eq_some hf) hn d n l
    · next hf =>
      have hname : n.name ∉ Listening.names := by
        intro hmem
        have hall : ∀ name ∈ Listening.names, (serverDirectives.lookup name).isSome = true := by
          intro name hmem
          fin_cases hmem <;> rfl
        have hsome := hall _ hmem
        rw [hf] at hsome
        exact Bool.false_ne_true hsome
      rw [Listening.directive_eq_self hname, unmodelled_withListening]
      rfl

/-! ### Statements -/

theorem setBurst_withListening (d : Draft) (l : Listening) (burst : Option (List Char)) :
    (d.withListening l).setBurst burst = (d.setBurst burst).map (·.withListening l) := by
  cases burst with
  | none => rfl
  | some ds =>
    rw [setBurst, setBurst]
    cases readNumber ds <;> rfl

theorem place_withListening (d : Draft) (l : Listening) (m : MatchType) (path : String) (ns : List Node) :
    (d.withListening l).place m path ns = (d.place m path ns).map (·.withListening l) := by
  unfold place
  rw [show (d.withListening l).caching = d.caching from rfl]
  split
  · rfl
  · cases Location.ofChildren path m ns <;> rfl

theorem location_withListening (d : Draft) (n : Node) (l : Listening) :
    (d.withListening l).location n = (d.location n).map (·.withListening l) := by
  rw [location_eq, location_eq]
  obtain ⟨m, path, strong⟩ := n.locationTarget
  dsimp only
  have hwarn : (if strong = true then
        ({ d.withListening l with locationSeen := true } : Draft).warn (.strongModifier n.line)
      else { d.withListening l with locationSeen := true }) =
      (if strong = true then ({ d with locationSeen := true } : Draft).warn (.strongModifier n.line)
        else { d with locationSeen := true }).withListening l := by
    split_ifs <;> rfl
  rw [hwarn]
  generalize (if strong = true then ({ d with locationSeen := true } : Draft).warn (.strongModifier n.line)
    else { d with locationSeen := true }) = d'
  split_ifs
  · rfl
  · rw [setBurst_withListening]
    show ((d'.setBurst (splitLimit d'.site.security.rateLimiting n.children).2).map (·.withListening l)).bind
      (fun d => d.place m path (splitLimit d'.site.security.rateLimiting n.children).1) = _
    cases d'.setBurst (splitLimit d'.site.security.rateLimiting n.children).2 with
    | error e => rfl
    | ok d => exact place_withListening d l m path _

/-- A statement that is no listen directive carries the listening along. -/
theorem serverStatement_withListening (d : Draft) {n : Node} (hn : n.isListen = false) (l : Listening) :
    (d.withListening l).serverStatement n = (d.serverStatement n).map (·.withListening (l.read n)) := by
  cases n with
  | directive name args line =>
    have hname : name ≠ "listen" := by
      rintro rfl
      simp [Node.isListen, Node.isDirective, Node.isBlock, Node.name] at hn
    exact carries_directive d (n := .directive name args line) hname l
  | block name args line children =>
    rw [Listening.read_block]
    by_cases hname : name = "location"
    · subst hname
      exact location_withListening d (.block "location" args line children) l
    · have hblock : ∀ d : Draft, d.serverStatement (.block name args line children) =
          .ok (d.unmodelled (.block name args line children)) := by
        intro d
        unfold serverStatement
        split <;> simp_all
      rw [hblock, hblock, unmodelled_withListening]
      rfl

theorem listening_serverStatement {d d' : Draft} {n : Node} (hn : n.isListen = false)
    (h : d.serverStatement n = .ok d') : d'.listening = d.listening.read n := by
  have hcarry := serverStatement_withListening d hn d.listening
  rw [withListening_listening, h] at hcarry
  have hd' : d' = d'.withListening (d.listening.read n) := Except.ok.inj hcarry
  rw [hd', listening_withListening]

theorem serverStatement_listen (d : Draft) {n : Node} (hn : n.isListen = true) (hport : n.ReadablePort) :
    d.serverStatement n = .ok (d.withListening (d.listening.read n)) := by
  rw [Listening.read_listen hn, ← listen_eq_withListening d hport]
  rw [Node.isListen, Node.isDirective, Bool.and_eq_true, Bool.not_eq_true', beq_iff_eq] at hn
  cases n with
  | directive name args line =>
    obtain ⟨-, rfl⟩ := hn
    rfl
  | block name args line children => exact absurd hn.1 (by simp [Node.isBlock])

/-! ### A whole run -/

theorem run_withListening {ns : List Node} (hns : ∀ n ∈ ns, n.isListen = false) (d : Draft) (l : Listening) :
    ns.foldlM serverStatement (d.withListening l) =
      (ns.foldlM serverStatement d).map (·.withListening (ns.foldl Listening.read l)) := by
  induction ns generalizing d l with
  | nil => rfl
  | cons n ns ih =>
    obtain ⟨hn, hns⟩ := List.forall_mem_cons.1 hns
    rw [List.foldlM_cons, List.foldlM_cons, List.foldl_cons, serverStatement_withListening d hn]
    cases d.serverStatement n with
    | error e => rfl
    | ok d' => exact ih hns d' (l.read n)

/-- A run is that without the listen directives, with the listening that the statements say. -/
theorem run_eq {ns : List Node} (hports : ∀ n ∈ ns, n.isListen = true → n.ReadablePort) (d : Draft) :
    ns.foldlM serverStatement d =
      ((ns.filter (!·.isListen)).foldlM serverStatement d).map
        (·.withListening (ns.foldl Listening.read d.listening)) := by
  induction ns generalizing d with
  | nil => rfl
  | cons n ns ih =>
    obtain ⟨hport, hports⟩ := List.forall_mem_cons.1 hports
    rw [List.foldlM_cons, List.foldl_cons]
    cases hn : n.isListen with
    | true =>
      rw [serverStatement_listen d hn (hport hn), List.filter_cons_of_neg (by simp [hn])]
      show ns.foldlM serverStatement (d.withListening (d.listening.read n)) = _
      -- the others start from a draft that differs in its listening only, and the run says that anew
      rw [ih hports, listening_withListening, run_withListening (by simp)]
      cases (ns.filter (!·.isListen)).foldlM serverStatement d <;> rfl
    | false =>
      rw [List.filter_cons_of_pos (by simp [hn]), List.foldlM_cons]
      cases h : d.serverStatement n with
      | error e => rfl
      | ok d' =>
        show ns.foldlM serverStatement d' = ((ns.filter (!·.isListen)).foldlM serverStatement d').map _
        rw [ih hports, listening_serverStatement hn h]

/-! ### The end of an import -/

theorem withUpstreams_withListening (d : Draft) (l : Listening) (us : List Node) :
    Import.withUpstreams (d.withListening l) us = (Import.withUpstreams d us).map (·.withListening l) := by
  cases us with
  | nil => rfl
  | cons u us =>
    rw [Import.withUpstreams, Import.withUpstreams]
    unfold upstream
    dsimp only
    split_ifs
    · rfl
    · rfl
    · cases ({ enabled := true, name := u.arg 0 } : Upstream).addAll u.children <;> rfl
    · cases ({ enabled := true, name := u.arg 0 } : Upstream).addAll u.children <;> rfl

theorem site_finish_withListening (d : Draft) (l : Listening) :
    (d.withListening l).finish.site = d.finish.site.withListening l := by
  have hssl : ({ d.site.ssl with enabled := l.encrypted } : Ssl).settle d.preferServerCiphers =
      { d.site.ssl.settle d.preferServerCiphers with enabled := l.encrypted } := by
    cases d.preferServerCiphers with
    | none => rfl
    | some prefer =>
      unfold Ssl.settle
      dsimp only
      split_ifs <;> rfl
  have hperformance : (({ d.site.performance with http2 := l.http2 } : Performance).settleBrotli
        d.brotliTypes).settleCaching d.caching =
      { (d.site.performance.settleBrotli d.brotliTypes).settleCaching d.caching with http2 := l.http2 } := by
    cases d.brotliTypes <;> cases d.caching <;> rfl
  rw [finish_eq, finish_eq]
  show Site.mk .. = Site.mk ..
  congr 1

end Draft
end SiteConf
