import Mathlib
import SiteConf.Import.Site

/-!
# The layout of a file

An import takes three sequences of statements from a file: its servers, its upstream pools, and all others, each in
the order of the text. How the three are mixed, and which statements stand in `http` blocks, does not count. Main
statement: `Import.ofNodes_layout`.

Files with the same three sequences are just those that can be laid out as each other by two moves: neighbours of
different kinds change places, and a run of statements is put into an `http` block (`relaid_iff`).
-/

namespace SiteConf

/-- What a statement at file level is to an import. -/
inductive FileKind where
  | server
  | upstream
  | other
  deriving DecidableEq

namespace Node

def fileKind (n : Node) : FileKind :=
  if n.isServer then .server else if n.isUpstream then .upstream else .other

/-- A block that only groups statements of the file level. -/
def isHttp (n : Node) : Bool := n.isBlock && n.name == "http"

end Node

/-- The statements of one kind. -/
def ofKind (k : FileKind) (ns : List Node) : List Node := ns.filter (·.fileKind = k)

/-- The same servers, the same upstream pools and the same other statements, each in the same order. -/
def SameParts (xs ys : List Node) : Prop := ∀ k, ofKind k xs = ofKind k ys

/-- The second list holds the statements of the first one, with those of an `http` block in the place of the block,
however deep such blocks are nested. -/
inductive Unwraps : List Node → List Node → Prop
  | nil : Unwraps [] []
  | http {children scope ns rest : List Node} (args : List String) (line : Int) :
    Unwraps children scope → Unwraps ns rest → Unwraps (.block "http" args line children :: ns) (scope ++ rest)
  | plain {n : Node} {ns rest : List Node} (h : n.isHttp = false) : Unwraps ns rest → Unwraps (n :: ns) (n :: rest)

/-! ### The file level -/

theorem fileScope_append (xs ys : List Node) : fileScope (xs ++ ys) = fileScope xs ++ fileScope ys := by
  induction xs with
  | nil => rfl
  | cons x xs ih => rw [List.cons_append, fileScope, fileScope, ih, List.append_assoc]

theorem Node.fileScope_of_not_http {n : Node} (h : n.isHttp = false) : n.fileScope = [n] := by
  cases n with
  | directive name args line => rfl
  | block name args line children =>
    have hname : name ≠ "http" := beq_eq_false_iff_ne.1 h
    rw [Node.fileScope, if_neg hname]

theorem Node.fileScope_http (args : List String) (line : Int) (children : List Node) :
    (Node.block "http" args line children).fileScope = SiteConf.fileScope children := by
  rw [Node.fileScope, if_pos rfl]

theorem Unwraps.fileScope_eq {ns scope : List Node} (h : Unwraps ns scope) : fileScope ns = scope := by
  induction h with
  | nil => rfl
  | http args line _ _ ihc ih => rw [fileScope, Node.fileScope_http, ihc, ih]
  | plain hn _ ih => rw [fileScope, Node.fileScope_of_not_http hn, ih, List.singleton_append]

theorem Unwraps.not_http {ns scope : List Node} (h : Unwraps ns scope) : ∀ n ∈ scope, n.isHttp = false := by
  induction h with
  | nil => simp
  | http args line _ _ ihc ih => exact List.forall_mem_append.2 ⟨ihc, ih⟩
  | plain hn _ ih => exact List.forall_mem_cons.2 ⟨hn, ih⟩

theorem unwraps_fileScope : ∀ ns : List Node, Unwraps ns (fileScope ns)
  | [] => .nil
  | .directive name args line :: ns => .plain rfl (unwraps_fileScope ns)
  | .block name args line children :: ns => by
    by_cases hname : name = "http"
    · subst hname
      rw [fileScope, Node.fileScope_http]
      exact .http args line (unwraps_fileScope children) (unwraps_fileScope ns)
    · have hn : (Node.block name args line children).isHttp = false := beq_eq_false_iff_ne.2 hname
      rw [fileScope, Node.fileScope_of_not_http hn]
      exact .plain hn (unwraps_fileScope ns)

/-! ### Kinds -/

theorem ofKind_server (ns : List Node) : ofKind .server ns = ns.filter Node.isServer := by
  refine List.filter_congr fun n _ => ?_
  unfold Node.fileKind
  cases n.isServer <;> cases n.isUpstream <;> rfl

theorem ofKind_upstream (ns : List Node) : ofKind .upstream ns = ns.filter Node.isUpstream := by
  refine List.filter_congr fun n _ => ?_
  have hone : n.isServer = true → n.isUpstream = false := by
    unfold Node.isServer Node.isUpstream
    simp only [Bool.and_eq_true, beq_iff_eq]
    rintro ⟨-, hname⟩
    rw [hname]
    exact Bool.and_false _
  unfold Node.fileKind
  cases hs : n.isServer with
  | false => cases n.isUpstream <;> rfl
  | true =>
    rw [hone hs]
    rfl

theorem ofKind_other (ns : List Node) : ofKind .other ns = ns.filter fun n => !n.isServer && !n.isUpstream := by
  refine List.filter_congr fun n _ => ?_
  unfold Node.fileKind
  cases n.isServer <;> cases n.isUpstream <;> rfl

theorem ofKind_append (k : FileKind) (xs ys : List Node) : ofKind k (xs ++ ys) = ofKind k xs ++ ofKind k ys :=
  List.filter_append ..

theorem ofKind_cons_self (n : Node) (ns : List Node) : ofKind n.fileKind (n :: ns) = n :: ofKind n.fileKind ns :=
  List.filter_cons_of_pos (by simp)

theorem ofKind_cons_of_ne {k : FileKind} {n : Node} (h : n.fileKind ≠ k) (ns : List Node) :
    ofKind k (n :: ns) = ofKind k ns :=
  List.filter_cons_of_neg (by simpa using h)

theorem mem_ofKind {k : FileKind} {n : Node} {ns : List Node} : n ∈ ofKind k ns ↔ n ∈ ns ∧ n.fileKind = k := by
  simp [ofKind]

/-! ### Moves -/

/-- The second file is laid out from the first one. Neighbours of different kinds change places, and a run of
statements is put into an `http` block or taken out of one. -/
inductive Relaid : List Node → List Node → Prop
  | refl (ns : List Node) : Relaid ns ns
  | symm {xs ys : List Node} : Relaid xs ys → Relaid ys xs
  | trans {xs ys zs : List Node} : Relaid xs ys → Relaid ys zs → Relaid xs zs
  | cons {xs ys : List Node} (n : Node) : Relaid xs ys → Relaid (n :: xs) (n :: ys)
  | exchange {a b : Node} (rest : List Node) (ha : a.isHttp = false) (hb : b.isHttp = false)
    (hk : a.fileKind ≠ b.fileKind) : Relaid (a :: b :: rest) (b :: a :: rest)
  | wrap (args : List String) (line : Int) (run rest : List Node) :
    Relaid (run ++ rest) (.block "http" args line run :: rest)

theorem Relaid.sameParts {xs ys : List Node} (h : Relaid xs ys) : SameParts (fileScope xs) (fileScope ys) := by
  intro k
  induction h with
  | refl => rfl
  | symm _ ih => exact ih.symm
  | trans _ _ ih ih' => exact ih.trans ih'
  | cons n _ ih => rw [fileScope, fileScope, ofKind_append, ofKind_append, ih]
  | @exchange a b rest ha hb hk =>
    simp only [fileScope, Node.fileScope_of_not_http ha, Node.fileScope_of_not_http hb, List.singleton_append]
    by_cases hka : a.fileKind = k
    · have hkb : b.fileKind ≠ k := fun h => hk (hka.trans h.symm)
      subst hka
      rw [ofKind_cons_self, ofKind_cons_of_ne hkb, ofKind_cons_of_ne hkb, ofKind_cons_self]
    · rw [ofKind_cons_of_ne hka]
      by_cases hkb : b.fileKind = k
      · subst hkb
        rw [ofKind_cons_self, ofKind_cons_self, ofKind_cons_of_ne hka]
      · rw [ofKind_cons_of_ne hkb, ofKind_cons_of_ne hkb, ofKind_cons_of_ne hka]
  | wrap args line run rest => rw [fileScope_append, fileScope, Node.fileScope_http]

namespace Relaid
variable {xs ys xs' ys' : List Node}

theorem append_left (xs : List Node) (h : Relaid ys ys') : Relaid (xs ++ ys) (xs ++ ys') := by
  induction xs with
  | nil => exact h
  | cons x xs ih => exact .cons x ih

theorem append_right (h : Relaid xs xs') (ys : List Node) : Relaid (xs ++ ys) (xs' ++ ys) := by
  induction h with
  | refl => exact .refl _
  | symm _ ih => exact ih.symm
  | trans _ _ ih ih' => exact ih.trans ih'
  | cons n _ ih => exact .cons n ih
  | exchange rest ha hb hk => exact .exchange (rest ++ ys) ha hb hk
  | wrap args line run rest =>
    rw [List.append_assoc]
    exact .wrap args line run (rest ++ ys)

theorem move {n : Node} (hn : n.isHttp = false) {pre : List Node}
    (hpre : ∀ m ∈ pre, m.isHttp = false ∧ n.fileKind ≠ m.fileKind) (rest : List Node) :
    Relaid (n :: (pre ++ rest)) (pre ++ n :: rest) := by
  induction pre with
  | nil => exact .refl _
  | cons m pre ih =>
    rw [List.forall_mem_cons] at hpre
    exact (Relaid.exchange (pre ++ rest) hn hpre.1.1 hpre.1.2).trans (.cons m (ih hpre.2))

end Relaid

theorem Unwraps.relaid {ns scope : List Node} (h : Unwraps ns scope) : Relaid ns scope := by
  induction h with
  | nil => exact .refl _
  | @http children scope ns rest args line _ _ ihc ih =>
    exact ((Relaid.wrap args line children ns).symm.trans (ihc.append_right ns)).trans (ih.append_left scope)
  | plain _ _ ih => exact .cons _ ih

/-- Without `http` blocks, the servers can be brought to the start, and the upstream pools behind them. -/
theorem relaid_sorted {ns : List Node} (h : ∀ n ∈ ns, n.isHttp = false) :
    Relaid ns (ofKind .server ns ++ (ofKind .upstream ns ++ ofKind .other ns)) := by
  induction ns with
  | nil => exact .refl _
  | cons n ns ih =>
    rw [List.forall_mem_cons] at h
    have hkind : ∀ k, n.fileKind ≠ k → ∀ m ∈ ofKind k ns, m.isHttp = false ∧ n.fileKind ≠ m.fileKind := by
      intro k hk m hm
      obtain ⟨hmem, rfl⟩ := mem_ofKind.1 hm
      exact ⟨h.2 m hmem, hk⟩
    have hself := ofKind_cons_self n ns
    refine (Relaid.cons n (ih h.2)).trans ?_
    cases hn : n.fileKind with
    | server =>
      rw [hn] at hself
      rw [hself, ofKind_cons_of_ne (by simp [hn]), ofKind_cons_of_ne (by simp [hn])]
      exact .refl _
    | upstream =>
      rw [hn] at hself
      rw [hself, ofKind_cons_of_ne (by simp [hn]), ofKind_cons_of_ne (by simp [hn])]
      exact .move h.1 (hkind _ (by simp [hn])) _
    | other =>
      rw [hn] at hself
      rw [hself, ofKind_cons_of_ne (by simp [hn]), ofKind_cons_of_ne (by simp [hn]), ← List.append_assoc,
        ← List.append_assoc]
      refine .move h.1 (List.forall_mem_append.2 ⟨hkind _ (by simp [hn]), hkind _ (by simp [hn])⟩) _

/-- Files with the same three sequences are just those that can be laid out as each other. -/
theorem relaid_iff (xs ys : List Node) : Relaid xs ys ↔ SameParts (fileScope xs) (fileScope ys) := by
  refine ⟨Relaid.sameParts, fun h => ?_⟩
  have hsorted : ∀ ns, Relaid ns (ofKind .server (fileScope ns) ++
      (ofKind .upstream (fileScope ns) ++ ofKind .other (fileScope ns))) := fun ns =>
    (unwraps_fileScope ns).relaid.trans (relaid_sorted (unwraps_fileScope ns).not_http)
  refine (hsorted xs).trans ?_
  rw [h .server, h .upstream, h .other]
  exact (hsorted ys).symm

/-! ### The whole import -/

namespace Import

/-- An import depends on the three sequences only. -/
theorem ofNodes_congr {xs ys : List Node} (h : SameParts (fileScope xs) (fileScope ys)) (errors : List String) :
    ofNodes xs errors = ofNodes ys errors := by
  have hservers := h .server
  have hupstreams := h .upstream
  have hothers := h .other
  rw [ofKind_server, ofKind_server] at hservers
  rw [ofKind_upstream, ofKind_upstream] at hupstreams
  rw [ofKind_other, ofKind_other] at hothers
  unfold ofNodes
  dsimp only
  rw [hservers, hupstreams, hothers]

theorem ofNodes_relaid {xs ys : List Node} (h : Relaid xs ys) (errors : List String) :
    ofNodes xs errors = ofNodes ys errors :=
  ofNodes_congr h.sameParts errors

/-- Files that hold the same servers, the same upstream pools and the same other statements, each in the same order,
are imported alike: as the same site with the same warnings and errors, or with the same failure. How the three are
mixed, and which of them stand in `http` blocks, does not count. -/
theorem ofNodes_layout {xs ys xs' ys' : List Node} (hx : Unwraps xs xs') (hy : Unwraps ys ys')
    (servers : xs'.filter Node.isServer = ys'.filter Node.isServer)
    (upstreams : xs'.filter Node.isUpstream = ys'.filter Node.isUpstream)
    (others : (xs'.filter fun n => !n.isServer && !n.isUpstream) = ys'.filter fun n => !n.isServer && !n.isUpstream)
    (errors : List String) : ofNodes xs errors = ofNodes ys errors := by
  refine ofNodes_congr (fun k => ?_) errors
  rw [hx.fileScope_eq, hy.fileScope_eq]
  cases k with
  | server => rw [ofKind_server, ofKind_server, servers]
  | upstream => rw [ofKind_upstream, ofKind_upstream, upstreams]
  | other => rw [ofKind_other, ofKind_other, others]

/-- A zone for a rate limit that stands behind the server it is for, with both in nested `http` blocks. -/
theorem ofNodes_layout_nested :
    let zone := Node.directive "limit_req_zone" ["$binary_remote_addr", "zone=req_limit:10m", "rate=5r/s"] 1
    let pool := Node.block "upstream" ["app"] 2 [.directive "server" ["10.0.0.1:80"] 3]
    let server := Node.block "server" [] 5 [.block "location" ["/"] 6
      [.directive "limit_req" ["zone=req_limit", "burst=7"] 7, .directive "proxy_pass" ["http://app"] 8]]
    let user := Node.directive "user" ["www-data"] 9
    let xs := [zone, pool, user, server]
    let ys := [.block "http" [] 1 [.block "http" [] 2 [server, zone], user], pool]
    Unwraps xs [zone, pool, user, server] ∧ Unwraps ys [server, zone, user, pool] ∧
      ofNodes xs [] = ofNodes ys [] := by
  intro zone pool server user xs ys
  have hx : Unwraps xs [zone, pool, user, server] := .plain rfl (.plain rfl (.plain rfl (.plain rfl .nil)))
  have hy : Unwraps ys [server, zone, user, pool] :=
    .http [] 1 (.http [] 2 (.plain rfl (.plain rfl .nil)) (.plain rfl .nil)) (.plain rfl .nil)
  exact ⟨hx, hy, ofNodes_layout hx hy rfl rfl rfl []⟩

end Import
end SiteConf
