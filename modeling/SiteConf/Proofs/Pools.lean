import SiteConf.Proofs.Unfailing

/-!
# Pools survive being written and read

The parameters of a pool member are written unless they have their default, and read one by one. Each is read as
it was, but for a number below zero: it is written with a sign, no reader of parameters takes one, and the default
stands in its place (`PoolMember.reread`). So the pool that is imported from the text of a plain site is its own up
to such numbers (`Site.render_upstream`).
-/

namespace SiteConf
open Text

theorem Ensures.of_map {ε α β : Type} {x : Except ε α} {f : α → β} {P : β → Prop} (h : Ensures (x.map f) P) :
    Ensures x fun a => P (f a) := by
  rintro a rfl
  exact h (f a) rfl

theorem Ensures.bind_eq {ε α β : Type} {x : Except ε α} {a : α} {f : α → Except ε β} {R : β → Prop}
    (h : Ensures x fun r => r = a) (hf : Ensures (f a) R) : Ensures (x >>= f) R := by
  refine h.bind ?_
  rintro _ rfl
  exact hf

/-! ### Numbers -/

theorem ensures_readNumber_toDigits (n : Nat) : Ensures (readNumber (Nat.toDigits 10 n)) fun k => k = n :=
  (ensures_digitsValue _).mono fun _ hk => hk.trans (digitsValue_toDigits n)

theorem ensures_numberFrom_toString {n : Int} {least : Nat} (h : 0 ≤ n → least ≤ n) (fallback : Nat) :
    Ensures (numberFrom least fallback (toString n)) fun k => (k : Int) = if n < 0 then (fallback : Int) else n := by
  by_cases hn : n < 0
  · rw [numberFrom_toString_of_neg hn, if_pos hn]
    exact .ok rfl
  · have hleast := h (by omega)
    unfold numberFrom
    rw [toList_toString (by omega), if_pos (isNumber_toDigits _), if_neg hn]
    refine (ensures_readNumber_toDigits _).bind_eq (.ok ?_)
    rw [if_pos (by omega)]
    omega

theorem ensures_readSeconds_toString (n : Int) :
    Ensures (readSeconds (toString n ++ "s")) fun o => ((o.getD 10 : Nat) : Int) = if n < 0 then 10 else n := by
  by_cases hn : n < 0
  · rw [readSeconds_toString_of_neg hn, if_pos hn]
    exact .ok rfl
  · rw [readSeconds, String.toList_append, toList_toString (by omega), show "s".toList = ['s'] from rfl,
      spanDigits_toDigits (by decide), if_neg hn]
    dsimp only
    rw [isEmpty_toDigits]
    refine (ensures_readNumber_toDigits _).map ?_
    rintro k rfl
    show ((n.natAbs : Nat) : Int) = n
    omega

/-! ### Members -/

theorem map_fst_run {ε σ α ω : Type} {step : σ → α → Except ε (σ × List ω)}
    {run : σ → List α → Except ε (σ × List ω)} (hnil : ∀ s, run s [] = .ok (s, []))
    (hcons : ∀ s a as, run s (a :: as) = do
      let (s, w) ← step s a
      let (s, ws) ← run s as
      pure (s, w ++ ws)) (s : σ) (as : List α) :
    (run s as).map Prod.fst = as.foldlM (fun s a => (step s a).map Prod.fst) s := by
  induction as generalizing s with
  | nil =>
    rw [hnil]
    rfl
  | cons a as ih =>
    rw [hcons, List.foldlM_cons]
    cases step s a with
    | error e => rfl
    | ok r =>
      show (run r.1 as >>= _).map Prod.fst = as.foldlM _ r.1
      rw [← ih]
      cases run r.1 as <;> rfl

namespace PoolMember

/-- The member as it is read. -/
def reread (m : PoolMember) : PoolMember :=
  { m with
    maxFails := if m.maxFails < 0 then 1 else m.maxFails
    failTimeout := if m.failTimeout < 0 then 10 else m.failTimeout }

theorem reread_eq_self {m : PoolMember} : m.reread = m ↔ 0 ≤ m.maxFails ∧ 0 ≤ m.failTimeout := by
  cases m with
  | mk address weight maxFails failTimeout =>
    simp only [reread, mk.injEq, true_and]
    constructor
    · rintro ⟨hfails, htimeout⟩
      split_ifs at hfails htimeout <;> omega
    · rintro ⟨hfails, htimeout⟩
      rw [if_neg (by omega), if_neg (by omega)]
      exact ⟨rfl, rfl⟩

/-- A member with the next of its parameters. -/
def readParameter (m : PoolMember) (p : String) : Except NumberFault PoolMember := (m.addParameter p).map Prod.fst

variable (b m : PoolMember)

theorem ensures_readParameter_weight (h : 1 ≤ m.weight) :
    Ensures (b.readParameter ("weight=" ++ toString m.weight)) fun b' => b' = { b with weight := m.weight } := by
  rw [readParameter, addParameter_weight]
  refine ((ensures_numberFrom_toString (fun _ => h) 1).map fun k hk => ?_).map fun _ hr => hr
  rw [hk, if_neg (by omega)]

theorem ensures_readParameter_maxFails :
    Ensures (b.readParameter ("max_fails=" ++ toString m.maxFails)) fun b' =>
      b' = { b with maxFails := m.reread.maxFails } := by
  rw [readParameter, addParameter_maxFails]
  refine ((ensures_numberFrom_toString (fun h => h) 1).map fun k hk => ?_).map fun _ hr => hr
  rw [hk]
  rfl

theorem ensures_readParameter_failTimeout :
    Ensures (b.readParameter ("fail_timeout=" ++ toString m.failTimeout ++ "s")) fun b' =>
      b' = { b with failTimeout := m.reread.failTimeout } := by
  rw [readParameter, String.append_assoc, addParameter_failTimeout]
  refine ((ensures_readSeconds_toString m.failTimeout).map fun o ho => ?_).map fun _ hr => hr
  rw [ho]
  rfl

theorem ensures_foldlM_optional {c : Prop} [Decidable c] {b b' : PoolMember} {p : String} (hc : c → b = b')
    (hp : Ensures (b.readParameter p) fun r => r = b') :
    Ensures ((if c then [] else [p]).foldlM readParameter b) fun r => r = b' := by
  split_ifs with h
  · exact .ok (hc h)
  · exact hp.bind_eq (.ok rfl)

theorem ensures_addParameters_args {m : PoolMember} (h : 1 ≤ m.weight) :
    Ensures (({ address := m.address } : PoolMember).addParameters m.args.tail) fun r => r.1 = m.reread := by
  refine Ensures.of_map (f := Prod.fst) (P := fun r => r = m.reread) ?_
  rw [map_fst_run (fun _ => rfl) fun _ _ _ => rfl]
  show Ensures (List.foldlM readParameter _ (_ ++ _ ++ _)) _
  rw [List.foldlM_append, List.foldlM_append]
  have hweight := ensures_foldlM_optional (c := m.weight = 1) (fun hc => by rw [hc])
    (ensures_readParameter_weight { address := m.address } m h)
  have hfails := ensures_foldlM_optional (c := m.maxFails = 1) (fun hc => by rw [reread, hc]; rfl)
    (ensures_readParameter_maxFails { address := m.address, weight := m.weight } m)
  have htimeout := ensures_foldlM_optional (c := m.failTimeout = 10) (fun hc => by rw [reread, hc]; rfl)
    (ensures_readParameter_failTimeout
      { address := m.address, weight := m.weight, maxFails := m.reread.maxFails } m)
  exact (hweight.bind_eq hfails).bind_eq htimeout

end PoolMember

/-! ### Pools -/

namespace Upstream

/-- A pool with the next of its statements. -/
def readStatement (u : Upstream) (n : Node) : Except NumberFault Upstream := (u.add n).map Prod.fst

/-- The pool as it is read. -/
def rereadPool (u : Upstream) : Upstream := { u with servers := u.servers.map PoolMember.reread }

theorem rereadPool_eq_self {u : Upstream} :
    u.rereadPool = u ↔ ∀ m ∈ u.servers, 0 ≤ m.maxFails ∧ 0 ≤ m.failTimeout := by
  have hservers : u.rereadPool = u ↔ u.servers.map PoolMember.reread = u.servers.map id := by
    rw [List.map_id]
    constructor
    · exact fun h => congrArg servers h
    · exact fun h => by rw [rereadPool, h]
  rw [hservers, List.map_inj_left]
  exact forall₂_congr fun m _ => PoolMember.reread_eq_self

theorem ensures_foldlM_servers (u : Upstream) {ms : List PoolMember} (h : ∀ m ∈ ms, 1 ≤ m.weight) :
    Ensures ((ms.map fun m => Node.stmt "server" m.args).foldlM readStatement u) fun r =>
      r = { u with servers := u.servers ++ ms.map PoolMember.reread } := by
  induction ms generalizing u with
  | nil => exact .ok (by simp)
  | cons m ms ih =>
    have hm : Ensures (u.readStatement (.stmt "server" m.args)) fun r =>
        r = { u with servers := u.servers ++ [m.reread] } := by
      show Ensures ((({ address := m.address } : PoolMember).addParameters m.args.tail >>= _).map _) _
      refine Ensures.map (P := fun r => r.1 = { u with servers := u.servers ++ [m.reread] }) ?_ fun _ hr => hr
      refine (PoolMember.ensures_addParameters_args (h m (by simp))).bind fun r hr => .ok ?_
      rw [← hr]
    rw [List.map_cons, List.foldlM_cons]
    refine hm.bind_eq ((ih _ fun x hx => h x (by simp [hx])).mono ?_)
    rintro _ rfl
    simp

theorem ensures_addAll_poolNodes {u : Upstream} (h : ∀ m ∈ u.servers, 1 ≤ m.weight) (name : String) :
    Ensures (({ enabled := true, name } : Upstream).addAll u.poolNodes) fun r =>
      r.1 = { enabled := true, name, method := u.method, servers := u.servers.map PoolMember.reread } := by
  have hmethod : (if u.method = .roundRobin then [] else [Node.stmt (spell u.method) []]).foldlM readStatement
      ({ enabled := true, name } : Upstream) = .ok { enabled := true, name, method := u.method } := by
    cases u.method <;> rfl
  refine Ensures.of_map (f := Prod.fst) (P := fun r => r = _) ?_
  rw [map_fst_run (fun _ => rfl) fun _ _ _ => rfl]
  show Ensures (List.foldlM readStatement _ (_ ++ _)) _
  rw [List.foldlM_append, hmethod]
  exact ensures_foldlM_servers { enabled := true, name, method := u.method } h

end Upstream

/-! ### The whole text -/

theorem Draft.ensures_upstream_nodes {u : Upstream} (h : ∀ m ∈ u.servers, 1 ≤ m.weight) (henabled : u.enabled = true)
    (hname : u.name ≠ "") (hservers : u.servers ≠ []) (d : Draft) :
    Ensures (Import.withUpstreams d u.nodes) fun d' => d'.site.upstream = u.rereadPool := by
  have hwritten : (u.enabled && !u.servers.isEmpty) = true := by simp [henabled, hservers]
  have hne : u.name.isEmpty = false := by simpa using hname
  unfold Upstream.nodes
  rw [if_pos hwritten, orElse, hne]
  show Ensures (Draft.upstream d (.scope "upstream" [u.name] u.poolNodes)) _
  unfold Draft.upstream
  rw [show (Node.scope "upstream" [u.name] u.poolNodes).arg 0 = u.name from rfl]
  dsimp only
  rw [hne, if_neg (by simp)]
  refine (Upstream.ensures_addAll_poolNodes h u.name).bind fun r hr => .ok ?_
  rw [Upstream.rereadPool, ← henabled] at *
  exact hr

namespace Import

theorem ensures_pool_nodes {s : Site} (h : ∀ m ∈ s.upstream.servers, 1 ≤ m.weight)
    (henabled : s.upstream.enabled = true)
    (hname : s.upstream.name ≠ "") (hservers : s.upstream.servers ≠ []) (errors : List String) :
    Ensures (ofNodes s.nodes errors) fun i => i.site.upstream = s.upstream.rereadPool := by
  obtain ⟨first, rest, hfilter, -⟩ := chooseServer_nodes s
  unfold ofNodes
  dsimp only
  rw [fileScope_nodes, hfilter, (filter_nodes s).2.1]
  refine Ensures.of_bind fun d => Ensures.of_bind fun e => ?_
  refine (Draft.ensures_upstream_nodes h henabled hname hservers e).bind fun f hf => .ok ?_
  show f.finish.site.upstream = _
  rw [Draft.finish_eq]
  exact hf

end Import

namespace Site
variable {s : Site}

/-- The pool that is imported from the text of a plain site is that of the site, but for numbers below zero: one
failure and ten seconds stand in their place. The text is imported if its numbers can be read. -/
theorem render_upstream (hv : s.Valid) (hp : ∀ t ∈ s.strings, Plain t) (hc : isBlankText s.customDirectives = true)
    (hk : ∀ l ∈ s.locations, l.kind ≠ .custom) (henabled : s.upstream.enabled = true) (hname : s.upstream.name ≠ "")
    (hservers : s.upstream.servers ≠ []) :
    (∀ i, Import.ofText s.render = .ok i →
      i.site.upstream = { s.upstream with servers := s.upstream.servers.map PoolMember.reread } ∧
        (i.site.upstream = s.upstream ↔ ∀ m ∈ s.upstream.servers, 0 ≤ m.maxFails ∧ 0 ≤ m.failTimeout)) ∧
      ((∀ n ∈ s.writtenIntegers, FewDigits n) → ∃ i, Import.ofText s.render = .ok i) := by
  have hlegible := legible_of_plain hp hk
  constructor
  · intro i hi
    have hpool : i.site.upstream = s.upstream.rereadPool :=
      ensures_ofText_render (P := fun t => t.upstream = s.upstream.rereadPool) hlegible hc
        (Import.ensures_pool_nodes hv.servers henabled hname hservers []) i hi
    refine ⟨hpool, ?_⟩
    rw [hpool, Upstream.rereadPool_eq_self]
  · exact returns_ofText_render_of_plain hv hp hc hk

/-- Two servers, of which one has a number below zero. -/
theorem render_upstream_signed :
    let s : Site := { upstream := { enabled := true, method := .leastConn, servers :=
      [{ address := "10.0.0.1:80", weight := 3, failTimeout := 0 }, { address := "10.0.0.2:80", maxFails := -1 }] } }
    s.Valid ∧ (∀ t ∈ s.strings, Plain t) ∧ isBlankText s.customDirectives = true ∧
      (∀ l ∈ s.locations, l.kind ≠ .custom) ∧ s.upstream.enabled = true ∧ s.upstream.name ≠ "" ∧
      s.upstream.servers ≠ [] ∧ (∀ n ∈ s.writtenIntegers, FewDigits n) ∧
      ∃ i, Import.ofText s.render = .ok i ∧ i.site.upstream ≠ s.upstream ∧
        i.site.upstream.servers = [{ address := "10.0.0.1:80", weight := 3, failTimeout := 0 },
          { address := "10.0.0.2:80" }] := by
  intro s
  have hv : s.Valid := by decide
  have hp : ∀ t ∈ s.strings, Plain t := by decide
  have hc : isBlankText s.customDirectives = true := by decide
  have hk : ∀ l ∈ s.locations, l.kind ≠ .custom := by decide
  have hn : ∀ n ∈ s.writtenIntegers, FewDigits n := by decide
  have hname : s.upstream.name ≠ "" := by decide
  have hservers : s.upstream.servers ≠ [] := List.cons_ne_nil _ _
  obtain ⟨hpool, hread⟩ := render_upstream hv hp hc hk rfl hname hservers
  obtain ⟨i, hi⟩ := hread hn
  obtain ⟨heq, hiff⟩ := hpool i hi
  refine ⟨hv, hp, hc, hk, rfl, hname, hservers, hn, i, hi, fun hsame => ?_, ?_⟩
  · exact absurd (hiff.1 hsame) (by decide)
  · rw [heq]
    decide

end Site
end SiteConf
