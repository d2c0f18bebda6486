import SiteConf.Proofs.Bounds
import SiteConf.Proofs.Lineless

/-!
# When an import returns

Only a number stops an import: one of too many digits, or a size in kilobytes beyond the largest double.
Every number is a run of digits of one argument, or of the arguments of a rate limit with spaces between
them, which no run crosses (`DigitRuns.joinWith`). So an import of nodes with few digits in each argument
returns (`Import.returns_ofNodes`), whatever the draft is at each statement.
-/

namespace SiteConf
open Text

/-! ### Computations that return -/

def Returns {ε α : Type} (x : Except ε α) : Prop := ∃ a, x = .ok a

namespace Returns
variable {ε α β : Type} {x : Except ε α}

theorem ok (a : α) : Returns (.ok a : Except ε α) := ⟨a, rfl⟩

theorem bind {f : α → Except ε β} (h : Returns x) (hf : ∀ a, x = .ok a → Returns (f a)) : Returns (x >>= f) := by
  obtain ⟨a, rfl⟩ := h
  exact hf a rfl

theorem map (h : Returns x) (f : α → β) : Returns (x.map f) := by
  obtain ⟨a, rfl⟩ := h
  exact ⟨f a, rfl⟩

theorem foldlM {f : β → α → Except ε β} {as : List α} (hf : ∀ a ∈ as, ∀ b, Returns (f b a)) (b : β) :
    Returns (as.foldlM f b) := by
  induction as generalizing b with
  | nil => exact ok b
  | cons a as ih =>
    rw [List.foldlM_cons]
    exact (hf a (by simp) b).bind fun b' _ => ih (fun x hx => hf x (by simp [hx])) b'

end Returns

/-! ### Runs of digits -/

/-- The digits that an argument may hold. -/
def digitBudget : Nat := 300

/-- Wherever digits start in the text, no more than `digitBudget` of them follow. -/
def DigitRuns (cs : List Char) : Prop :=
  ∀ rest, rest <:+ cs → (rest.takeWhile isDecimal).length ≤ digitBudget

namespace DigitRuns
variable {cs ds : List Char}

theorem of_countP (h : cs.countP isDecimal ≤ digitBudget) : DigitRuns cs := by
  intro rest hrest
  have hall : (rest.takeWhile isDecimal).countP isDecimal = (rest.takeWhile isDecimal).length :=
    List.countP_eq_length.2 fun c hc => List.mem_takeWhile_imp hc
  have hsub : (rest.takeWhile isDecimal).Sublist cs :=
    (List.takeWhile_sublist isDecimal).trans hrest.sublist
  have hle := hsub.countP_le (p := isDecimal)
  omega

theorem suffix (h : DigitRuns cs) (hs : ds <:+ cs) : DigitRuns ds := fun rest hrest => h rest (hrest.trans hs)

theorem length_takeWhile_le (h : DigitRuns cs) : (cs.takeWhile isDecimal).length ≤ digitBudget :=
  h cs (List.suffix_refl cs)

theorem length_le (h : DigitRuns cs) (hn : isNumber cs = true) : cs.length ≤ digitBudget := by
  have hall : ∀ c ∈ cs, isDecimal c = true := by
    rw [isNumber, Bool.and_eq_true] at hn
    exact List.all_eq_true.1 hn.2
  have hle := h.length_takeWhile_le
  rwa [List.takeWhile_eq_self_iff.2 hall] at hle

theorem append {c : Char} (h : DigitRuns cs) (hc : isDecimal c = false) (h' : DigitRuns ds) :
    DigitRuns (cs ++ c :: ds) := by
  intro rest hrest
  have hcut : ∀ xs : List Char, (xs ++ c :: ds).takeWhile isDecimal = xs.takeWhile isDecimal := by
    intro xs
    induction xs with
    | nil => rw [List.nil_append, List.takeWhile_cons, hc]; rfl
    | cons x xs ih => rw [List.cons_append, List.takeWhile_cons, List.takeWhile_cons, ih]
  induction cs with
  | nil =>
    rcases List.suffix_cons_iff.1 hrest with rfl | hrest
    · rw [List.takeWhile_cons, hc]
      exact Nat.zero_le _
    · exact h' rest hrest
  | cons x xs ih =>
    rw [List.cons_append] at hrest
    rcases List.suffix_cons_iff.1 hrest with rfl | hrest
    · rw [← List.cons_append, hcut]
      exact h.length_takeWhile_le
    · exact ih (h.suffix (List.suffix_cons x xs)) hrest

end DigitRuns

/-- The decimal digits of a text, of any script. -/
def digitCount (s : String) : Nat := s.toList.countP isDecimal

theorem digitRuns_of_digitCount {s : String} (h : digitCount s ≤ digitBudget) : DigitRuns s.toList := .of_countP h

theorem digitRuns_joinWith {args : List String} (h : ∀ a ∈ args, digitCount a ≤ digitBudget) :
    DigitRuns (joinWith " " args).toList := by
  induction args with
  | nil => exact .of_countP (Nat.zero_le _)
  | cons a args ih =>
    have ha := digitRuns_of_digitCount (h a (by simp))
    have hargs := ih fun x hx => h x (by simp [hx])
    cases args with
    | nil => exact ha
    | cons b args =>
      rw [joinWith_cons_cons, String.toList_append, String.toList_append, List.append_assoc,
        show " ".toList = [' '] from rfl, List.singleton_append]
      exact ha.append (by decide) hargs

/-! ### Numbers -/

theorem returns_readNumber {ds : List Char} (h : ds.length ≤ digitBudget) : Returns (readNumber ds) :=
  ⟨_, readNumber_eq_ok (Nat.le_trans h (by decide))⟩

theorem returns_readSeconds {s : String} (h : DigitRuns s.toList) : Returns (readSeconds s) := by
  unfold readSeconds
  dsimp only
  split_ifs
  · exact (returns_readNumber h.length_takeWhile_le).map _
  · exact .ok _

theorem returns_numberFrom (least fallback : Nat) {s : String} (h : DigitRuns s.toList) :
    Returns (numberFrom least fallback s) := by
  unfold numberFrom
  split_ifs with hn
  · exact (returns_readNumber (h.length_le hn)).bind fun _ _ => .ok _
  · exact .ok _

theorem toDoublePrecision_le (n : Nat) : toDoublePrecision n ≤ 2 * n := by
  unfold toDoublePrecision
  split_ifs with h
  · omega
  · have hpos : n ≠ 0 := by
      rintro rfl
      exact h (by decide)
    have hunit : Nat.pow 2 (n.log2 - 52) ≤ n :=
      Nat.le_trans (Nat.pow_le_pow_right (by decide) (Nat.sub_le _ _)) (Nat.log2_self_le hpos)
    have hunitPos : 0 < Nat.pow 2 (n.log2 - 52) := Nat.pow_pos (by decide)
    have hnear := (Double.roundQuotient_near n hunitPos).1
    dsimp only
    omega

theorem two_mul_pow_le (k e : Nat) (h : 10 * k + 1 ≤ e) : 2 * 10 ^ (3 * k) ≤ Nat.pow 2 e :=
  calc 2 * 10 ^ (3 * k) = 2 * (10 ^ 3) ^ k := by rw [Nat.pow_mul]
    _ ≤ 2 * (2 ^ 10) ^ k := Nat.mul_le_mul_left 2 (Nat.pow_le_pow_left (by decide) k)
    _ = 2 ^ (10 * k + 1) := by rw [← Nat.pow_mul, Nat.pow_succ']
    _ ≤ Nat.pow 2 e := Nat.pow_le_pow_right (by decide) h

/-- A number of few digits is no quotient beyond the largest double. -/
theorem returns_megabytes {n : Nat} (h : n < 10 ^ digitBudget) : Returns (megabytes n) := by
  have hbudget : digitBudget = 3 * 100 := rfl
  have hexponent : 10 * 100 + 1 ≤ 1034 := by decide
  have hle := toDoublePrecision_le n
  rw [hbudget] at h
  unfold megabytes
  dsimp only
  -- the bounds are never evaluated
  generalize 1034 = e at hexponent ⊢
  have hbound := two_mul_pow_le 100 e hexponent
  generalize 10 ^ (3 * 100) = most at h hbound
  rw [if_neg (by omega)]
  exact .ok _

/-! ### Nodes -/

mutual
/-- No argument holds more than `digitBudget` digits, also in the children. -/
def Node.FewArgumentDigits : Node → Prop
  | .directive _ args _ => ∀ a ∈ args, digitCount a ≤ digitBudget
  | .block _ args _ children => (∀ a ∈ args, digitCount a ≤ digitBudget) ∧ AllFewArgumentDigits children

def AllFewArgumentDigits : List Node → Prop
  | [] => True
  | n :: ns => n.FewArgumentDigits ∧ AllFewArgumentDigits ns
end

theorem allFewArgumentDigits_iff {ns : List Node} : AllFewArgumentDigits ns ↔ ∀ n ∈ ns, n.FewArgumentDigits := by
  induction ns with
  | nil => simp [AllFewArgumentDigits]
  | cons n ns ih => simp [AllFewArgumentDigits, ih]

namespace Node.FewArgumentDigits
variable {n : Node}

theorem args (h : n.FewArgumentDigits) : ∀ a ∈ n.args, digitCount a ≤ digitBudget := by
  cases n with
  | directive => rwa [Node.FewArgumentDigits] at h
  | block =>
    rw [Node.FewArgumentDigits] at h
    exact h.1

theorem children (h : n.FewArgumentDigits) : ∀ m ∈ n.children, m.FewArgumentDigits := by
  cases n with
  | directive =>
    intro m hm
    cases hm
  | block =>
    rw [Node.FewArgumentDigits] at h
    exact allFewArgumentDigits_iff.1 h.2

theorem arg (h : n.FewArgumentDigits) (i : Nat) : DigitRuns (n.arg i).toList := by
  unfold Node.arg
  cases hi : n.args[i]? with
  | none => exact .of_countP (Nat.zero_le _)
  | some a => exact digitRuns_of_digitCount (h.args a (List.mem_of_getElem? hi))

end Node.FewArgumentDigits

/-! ### Locations -/

namespace Location

theorem returns_positiveSeconds {s : String} (h : DigitRuns s.toList) : Returns (positiveSeconds s) := by
  refine (returns_readSeconds h).bind fun o _ => ?_
  split
  · exact .ok _
  · exact .ok _

theorem returns_addProxyDirective (l : Location) {n : Node} (h : n.FewArgumentDigits) :
    Returns (l.addProxyDirective n) := by
  have hseconds := returns_positiveSeconds (h.arg 0)
  unfold addProxyDirective
  split
  · exact .ok _
  · exact .ok _
  · refine hseconds.bind fun o _ => ?_
    split <;> exact .ok _
  · refine hseconds.bind fun o _ => ?_
    split <;> exact .ok _
  · exact .ok _
  · exact .ok _

theorem returns_addProxyDirectives {ns : List Node} (h : ∀ n ∈ ns, ∀ l : Location, Returns (l.addProxyDirective n))
    (l : Location) : Returns (l.addProxyDirectives ns) := by
  induction ns generalizing l with
  | nil => exact .ok _
  | cons n ns ih =>
    rw [addProxyDirectives]
    refine (h n (by simp) l).bind fun o _ => ?_
    cases o with
    | none => exact .ok none
    | some l' => exact ih (fun x hx => h x (by simp [hx])) l'

theorem returns_proxy? (path : String) (m : MatchType) {ns : List Node}
    (h : ∀ n ∈ ns, ∀ l : Location, Returns (l.addProxyDirective n)) : Returns (proxy? path m ns) := by
  unfold proxy?
  dsimp only
  split_ifs
  · exact .ok _
  · exact .ok _
  · exact .ok _
  · refine (returns_addProxyDirectives h _).bind fun o _ => ?_
    split <;> exact .ok _

theorem returns_ofChildren (path : String) (m : MatchType) {ns : List Node}
    (h : ∀ n ∈ ns, ∀ l : Location, Returns (l.addProxyDirective n)) : Returns (ofChildren path m ns) := by
  have htyped : Returns (typed? path m ns) := by
    unfold typed?
    split
    · exact .ok _
    · refine (returns_proxy? path m h).bind fun o _ => ?_
      split <;> exact .ok _
  unfold ofChildren
  refine htyped.bind fun o _ => ?_
  split <;> exact .ok _

end Location

/-- The burst of a rate limit is a run of digits of its arguments. -/
theorem length_le_of_limitBurst? {args : List String} {ds : List Char} (h : limitBurst? args = some (some ds))
    (ha : ∀ a ∈ args, digitCount a ≤ digitBudget) : ds.length ≤ digitBudget := by
  have hdrop : ∀ {cs : List Char} k, DigitRuns cs → DigitRuns (cs.drop k) :=
    fun k hcs => hcs.suffix (List.drop_suffix k _)
  have hruns := digitRuns_joinWith ha
  unfold limitBurst? at h
  dsimp only at h
  generalize (joinWith " " args).toList = cs at h hruns
  split at h
  · cases h
  · have htail := hdrop 7 (hdrop ("zone=" ++ rateLimitZone).toList.length hruns)
    generalize ("zone=" ++ rateLimitZone).toList.length = k at h htail
    generalize (cs.drop k).drop 7 = tail at h htail
    generalize hcut : (if " burst=".toList.isPrefixOf (cs.drop k) then
      if (spanDigits tail).1.isEmpty then (none, cs.drop k) else (some (spanDigits tail).1, (spanDigits tail).2)
      else (none, cs.drop k)) = cut at h
    have hburst : cut.1 = some ds := by
      split_ifs at h
      · exact Option.some.inj h
      · exact Option.some.inj h
    split_ifs at hcut
    · rw [← hcut] at hburst
      cases hburst
    · rw [← hcut] at hburst
      rw [← Option.some.inj hburst]
      exact htail.length_takeWhile_le
    · rw [← hcut] at hburst
      cases hburst

theorem length_le_of_splitLimit {r : Bool} {ns : List Node} {ds : List Char} (h : (splitLimit r ns).2 = some ds)
    (hns : ∀ n ∈ ns, n.FewArgumentDigits) : ds.length ≤ digitBudget := by
  unfold splitLimit at h
  split at h
  · next args line rest =>
    split_ifs at h
    split at h
    · next burst hburst =>
      dsimp only at h
      rw [h] at hburst
      exact length_le_of_limitBurst? hburst (hns (.directive "limit_req" args line) (by simp)).args
    · cases h
  · cases h

theorem splitLimit_subset (r : Bool) (ns : List Node) : (splitLimit r ns).1 ⊆ ns := by
  unfold splitLimit
  split
  · split_ifs
    · split
      · exact List.subset_cons_self _ _
      · exact List.Subset.refl _
    · exact List.Subset.refl _
  · exact List.Subset.refl _

/-! ### Statements of a server -/

namespace Draft

/-- An effect that returns for every draft. -/
def Total (f : Effect) : Prop := ∀ d n, n.FewArgumentDigits → Returns (f d n)

theorem total_plain (f : Draft → Node → Draft) : Total (plain f) := fun _ _ _ => .ok _

theorem total_listen : Total listen := by
  intro d n h
  have hport : Returns (portOf (n.arg 0)) := by
    unfold portOf
    dsimp only
    have hsuffix : afterLast ':' (n.arg 0).toList <:+ (n.arg 0).toList := by
      have hcut := List.reverse_suffix.2 (List.takeWhile_prefix (· != ':') (l := (n.arg 0).toList.reverse))
      rwa [List.reverse_reverse] at hcut
    split_ifs with hn
    · exact (returns_readNumber (((h.arg 0).suffix hsuffix).length_le hn)).map _
    · exact .ok _
  exact hport.bind fun _ _ => .ok _

theorem length_le_of_splitSize? {s : String} {ds : List Char} {suffix : SizeSuffix}
    (h : splitSize? s = some (ds, suffix)) (hs : DigitRuns s.toList) : ds.length ≤ digitBudget := by
  have hds : ds = (spanDigits s.toList).1 := by
    unfold splitSize? at h
    dsimp only at h
    split_ifs at h
    · cases h
      rfl
    · split at h
      · split_ifs at h
        obtain ⟨_, -, hmap⟩ := Option.map_eq_some_iff.1 h
        cases hmap
        rfl
      · cases h
  rw [hds]
  exact hs.length_takeWhile_le

theorem total_clientMaxBodySize : Total clientMaxBodySize := by
  intro d n h
  unfold clientMaxBodySize
  split
  · exact .ok _
  · next ds suffix hsize =>
    have hlength := length_le_of_splitSize? hsize (h.arg 0)
    refine (returns_readNumber hlength).bind fun size hread => ?_
    split
    · have hlt : size < 10 ^ digitBudget := by
        rw [readNumber_eq_ok (Nat.le_trans hlength (by decide))] at hread
        rw [← Except.ok.inj hread]
        exact Nat.lt_of_lt_of_le (digitsValue_lt ds) (Nat.pow_le_pow_right (by decide) hlength)
      exact (returns_megabytes hlt).bind fun _ _ => .ok _
    · exact .ok _

theorem total_keepaliveTimeout : Total keepaliveTimeout := by
  intro d n h
  refine (returns_readSeconds (h.arg 0)).bind fun o _ => ?_
  split <;> exact .ok _

theorem total_serverDirectives : ∀ e ∈ serverDirectives, Total e.2 := by
  simp only [serverDirectives, List.forall_mem_cons]
  refine ⟨total_listen, ?_, ?_, ?_, ?_, ?_, ?_, ?_, ?_, ?_, ?_, ?_, ?_, ?_, ?_, ?_, ?_, ?_, ?_, ?_, ?_,
    total_clientMaxBodySize, total_keepaliveTimeout, ?_, ?_, by simp⟩
  all_goals exact total_plain _

theorem total_directive : Total directive := by
  intro d n h
  unfold directive
  split_ifs
  · exact .ok _
  · split
    · next f hf => exact total_serverDirectives _ (mem_of_lookup_eq_some hf) d n h
    · exact .ok _

theorem returns_location {n : Node}
    (hburst : ∀ (d : Draft) r, Returns (d.setBurst (splitLimit r n.children).2))
    (hchildren : ∀ m ∈ n.children, ∀ l : Location, Returns (l.addProxyDirective m)) (d : Draft) :
    Returns (d.location n) := by
  rw [location_eq]
  dsimp only
  generalize (if n.locationTarget.2.2 then ({ d with locationSeen := true } : Draft).warn (.strongModifier n.line)
    else { d with locationSeen := true }) = d'
  split_ifs
  · exact .ok _
  · refine (hburst d' _).bind fun d'' _ => ?_
    unfold place
    split
    · exact .ok _
    · exact (Location.returns_ofChildren _ _ fun m hm => hchildren m (splitLimit_subset _ _ hm)).map _

theorem total_location : Total Draft.location := by
  intro d n h
  refine returns_location (fun d' r => ?_) (fun m hm l => l.returns_addProxyDirective (h.children m hm)) d
  cases hs : (splitLimit r n.children).2 with
  | none => exact .ok _
  | some ds =>
    have hread : Returns (do let n ← readNumber ds; pure (n : Int)) :=
      (returns_readNumber (length_le_of_splitLimit hs h.children)).bind fun _ _ => .ok _
    rw [setBurst]
    exact hread.map _

theorem total_serverStatement : Total serverStatement := by
  intro d n h
  unfold serverStatement
  split
  · exact total_location d _ h
  · exact .ok _
  · exact total_directive d _ h

/-! ### The file level -/

theorem total_fileStatement : Total fileStatement := by
  intro d n h
  unfold fileStatement
  split_ifs
  · unfold limitReqZone
    dsimp only
    split
    · next ds hds =>
      obtain ⟨a, ha, hrate⟩ := List.exists_of_findSome?_eq_some hds
      have hruns := digitRuns_of_digitCount (h.args a ha)
      have hlength : ds.length ≤ digitBudget := by
        unfold rateDigits? at hrate
        dsimp only at hrate
        split_ifs at hrate
        cases hrate
        exact (hruns.suffix (List.drop_suffix _ _)).length_takeWhile_le
      exact (returns_readNumber hlength).bind fun _ _ => .ok _
    · exact .ok _
  · exact .ok _

end Draft

theorem PoolMember.returns_addParameter (m : PoolMember) {p : String} (hp : digitCount p ≤ digitBudget) :
    Returns (m.addParameter p) := by
  have hvalue : DigitRuns (cutAtChar '=' p).2.toList := by
    rw [cutAtChar, String.toList_ofList]
    exact (digitRuns_of_digitCount hp).suffix ((List.drop_suffix _ _).trans (List.dropWhile_suffix _))
  unfold addParameter
  dsimp only
  split
  · exact (returns_numberFrom 1 1 hvalue).bind fun _ _ => .ok _
  · exact (returns_numberFrom 0 1 hvalue).bind fun _ _ => .ok _
  · exact (returns_readSeconds hvalue).bind fun _ _ => .ok _
  · exact .ok _

theorem PoolMember.returns_addParameters {ps : List String}
    (h : ∀ p ∈ ps, ∀ m : PoolMember, Returns (m.addParameter p)) (m : PoolMember) : Returns (m.addParameters ps) := by
  induction ps generalizing m with
  | nil => exact .ok _
  | cons p ps ih =>
    refine (h p (by simp) m).bind fun r _ => ?_
    exact (ih (fun x hx => h x (by simp [hx])) r.1).bind fun _ _ => .ok _

theorem Upstream.returns_add (u : Upstream) {n : Node} (hn : n.FewArgumentDigits) : Returns (u.add n) := by
  unfold add
  split
  · exact .ok _
  · next name args line =>
    have hargs := hn.args
    split
    · next address ps =>
      have hps : ∀ p ∈ ps, ∀ m : PoolMember, Returns (m.addParameter p) := fun p hp m =>
        m.returns_addParameter (hargs p (List.mem_cons_of_mem _ hp))
      exact (PoolMember.returns_addParameters hps _).bind fun _ _ => .ok _
    · split <;> exact .ok _

theorem Upstream.returns_addAll {ns : List Node} (h : ∀ n ∈ ns, ∀ u : Upstream, Returns (u.add n)) (u : Upstream) :
    Returns (u.addAll ns) := by
  induction ns generalizing u with
  | nil => exact .ok _
  | cons n ns ih =>
    refine (h n (by simp) u).bind fun r _ => ?_
    exact (ih (fun x hx => h x (by simp [hx])) r.1).bind fun _ _ => .ok _

theorem Draft.returns_upstream {n : Node} (h : ∀ m ∈ n.children, ∀ u : Upstream, Returns (u.add m)) (d : Draft) :
    Returns (d.upstream n) := by
  unfold upstream
  dsimp only
  split_ifs
  · exact .ok _
  · exact (Upstream.returns_addAll h _).bind fun _ _ => .ok _

theorem Draft.total_upstream : Total Draft.upstream :=
  fun d _ h => returns_upstream (fun m hm u => u.returns_add (h.children m hm)) d

mutual
theorem Node.fewArgumentDigits_fileScope : ∀ n : Node, n.FewArgumentDigits → ∀ m ∈ n.fileScope, m.FewArgumentDigits
  | .directive name args line, h, m, hm => by
    rw [Node.fileScope, List.mem_singleton] at hm
    rwa [hm]
  | .block name args line children, h, m, hm => by
    rw [Node.fileScope] at hm
    split_ifs at hm
    · rw [Node.FewArgumentDigits] at h
      exact fewArgumentDigits_fileScope children h.2 m hm
    · rw [List.mem_singleton] at hm
      rwa [hm]

theorem fewArgumentDigits_fileScope : ∀ ns : List Node, AllFewArgumentDigits ns →
    ∀ m ∈ fileScope ns, m.FewArgumentDigits
  | [], _, m, hm => by cases hm
  | n :: ns, h, m, hm => by
    rw [AllFewArgumentDigits] at h
    rw [fileScope, List.mem_append] at hm
    rcases hm with hm | hm
    · exact n.fewArgumentDigits_fileScope h.1 m hm
    · exact fewArgumentDigits_fileScope ns h.2 m hm
end

namespace Import

theorem chooseServer_mem (s : Node) (ss : List Node) : (chooseServer s ss).1 ∈ s :: ss := by
  unfold chooseServer
  split
  · exact List.mem_cons_self
  · next c cs hc =>
    have hmem : c ∈ (s :: ss).filter (!·.isHttpsRedirect) := by
      rw [hc]
      exact List.mem_cons_self
    exact (List.mem_filter.1 hmem).1

/-- Nodes are imported if each statement that counts can be read, whatever the draft is before it. -/
theorem returns_ofNodes_of_forall {nodes : List Node} (errors : List String)
    (hfile : ∀ n ∈ (fileScope nodes).filter fun n => !n.isServer && !n.isUpstream,
      ∀ d : Draft, Returns (d.fileStatement n))
    (hserver : ∀ n ∈ (fileScope nodes).filter Node.isServer, ∀ m ∈ n.children,
      ∀ d : Draft, Returns (d.serverStatement m))
    (hupstream : ∀ n ∈ (fileScope nodes).filter Node.isUpstream, ∀ d : Draft, Returns (d.upstream n)) :
    Returns (ofNodes nodes errors) := by
  unfold ofNodes
  dsimp only
  split
  · exact .ok _
  · next s ss hservers =>
    have hchosen := hserver (chooseServer s ss).1 (by rw [hservers]; exact chooseServer_mem s ss)
    generalize chooseServer s ss = chosen at hchosen ⊢
    obtain ⟨server, redirected, candidates⟩ := chosen
    dsimp only at hchosen ⊢
    have hdraft : Returns (fileDraft ((fileScope nodes).filter fun n => !n.isServer && !n.isUpstream)
        redirected candidates) :=
      (Returns.foldlM hfile _).bind fun _ _ => .ok _
    have hupstreams : ∀ d : Draft, Returns (withUpstreams d ((fileScope nodes).filter Node.isUpstream)) := by
      intro d
      cases hu : (fileScope nodes).filter Node.isUpstream with
      | nil => exact .ok _
      | cons u us =>
        rw [hu] at hupstream
        exact hupstream u List.mem_cons_self _
    refine hdraft.bind fun d _ => ?_
    refine (Returns.foldlM hchosen d).bind fun d _ => ?_
    exact (hupstreams d).bind fun _ _ => .ok _

theorem returns_ofNodes {nodes : List Node} (h : AllFewArgumentDigits nodes) (errors : List String) :
    Returns (ofNodes nodes errors) := by
  have hscope : ∀ (p : Node → Bool), ∀ n ∈ (fileScope nodes).filter p, n.FewArgumentDigits := fun p n hn =>
    fewArgumentDigits_fileScope nodes h n (List.mem_filter.1 hn).1
  refine returns_ofNodes_of_forall errors (fun n hn d => ?_) (fun n hn m hm d => ?_) fun n hn d => ?_
  · exact Draft.total_fileStatement d n (hscope _ n hn)
  · exact Draft.total_serverStatement d m ((hscope _ n hn).children m hm)
  · exact Draft.total_upstream d n (hscope _ n hn)

end Import
end SiteConf
