import SiteConf.Proofs.Unmodelled

/-!
# Statements that are dropped

From the first location block on, a statement of the server without a place in a site is dropped, and reported by
its kind and its name. Each such statement is reported once, in the order of the text, between the warnings about
other things (`Draft.ignored_run`). Main statement: `Import.unmodelled_accounted`.
-/

namespace SiteConf
open Text

/-! ### The texts of the warnings -/

/-- The words before the name of a statement that was dropped. -/
def ignoredLeads : List String := ["Ignored block \"", "Ignored directive \""]

/-- A text that reads as a warning about a statement that was dropped: nothing comes after the name. -/
def readsIgnored (message : String) : Bool :=
  ignoredLeads.any (startsWith message) && message.toList.getLast? == some '"'

/-- The text differs somewhere from the words before the name of a statement, in either form. -/
def Departs (t : String) : Prop :=
  ∀ lead ∈ ignoredLeads, lead.toList.isPrefixOf t.toList = false ∧ t.toList.isPrefixOf lead.toList = false

instance (t : String) : Decidable (Departs t) := inferInstanceAs (Decidable (∀ lead ∈ ignoredLeads, _ ∧ _))

namespace Departs

theorem append {s : String} (h : Departs s) (t : String) : Departs (s ++ t) := by
  intro lead hlead
  obtain ⟨hl, hs⟩ := h lead hlead
  rw [String.toList_append]
  rw [← Bool.not_eq_true, List.isPrefixOf_iff_prefix] at hl hs ⊢
  rw [← Bool.not_eq_true, List.isPrefixOf_iff_prefix]
  refine ⟨fun hp => ?_, fun hp => hs ((List.prefix_append _ _).trans hp)⟩
  exact (List.prefix_or_prefix_of_prefix hp (List.prefix_append _ _)).elim hl hs

theorem readsIgnored_eq {t : String} (h : Departs t) : readsIgnored t = false := by
  have hnone : ignoredLeads.any (startsWith t) = false :=
    List.any_eq_false.2 fun lead hlead => ne_true_of_eq_false (h lead hlead).1
  rw [readsIgnored, hnone, Bool.false_and]

end Departs

theorem getLast?_toList_append (s : String) {t : String} (h : t.toList ≠ []) :
    (s ++ t).toList.getLast? = t.toList.getLast? := by
  rw [String.toList_append, List.getLast?_append_of_ne_nil _ h]

theorem readsIgnored_ignored (isBlock : Bool) (name : String) :
    readsIgnored (Warning.ignored isBlock name).message = true := by
  obtain ⟨lead, hlead, htext⟩ : ∃ lead ∈ ignoredLeads,
      (Warning.ignored isBlock name).message = lead ++ name ++ "\"" := by
    cases isBlock
    · exact ⟨"Ignored directive \"", by decide, rfl⟩
    · exact ⟨"Ignored block \"", by decide, rfl⟩
  have hstarts : startsWith (lead ++ name ++ "\"") lead = true := by
    rw [startsWith, String.append_assoc, String.toList_append, List.isPrefixOf_iff_prefix]
    exact List.prefix_append _ _
  rw [htext, readsIgnored, List.any_eq_true.2 ⟨lead, hlead, hstarts⟩, getLast?_toList_append _ (by decide)]
  rfl

/-- No warning about something else reads as one about a statement of the server that was dropped. -/
theorem readsIgnored_message (w : Warning) : readsIgnored w.message = w.isIgnored := by
  have hother : ∀ {w : Warning}, Departs w.message → readsIgnored w.message = false := Departs.readsIgnored_eq
  cases w with
  | ignored isBlock name => exact readsIgnored_ignored isBlock name
  | ignoredInUpstream isBlock name =>
    cases isBlock with
    | false => exact hother (.append (.append (by decide) _) _)
    | true =>
      -- the words are the same up to the name, and others come after it
      have hlast : (Warning.ignoredInUpstream true name).message.toList.getLast? = some 'm' :=
        (getLast?_toList_append ("Ignored block \"" ++ name) (by decide)).trans (by decide)
      rw [readsIgnored, hlast]
      exact Bool.and_false _
  | noServer => exact hother (by decide)
  | locationWithoutPath | upstreamWithoutName => exact hother (.append (by decide) _)
  | manyServers | manyUpstreams | logLevel | strongModifier | ignoredParameter =>
    exact hother (.append (.append (by decide) _) _)
  | bodySize | keepaliveTimeout => exact hother (.append (.append (.append (by decide) _) _) _)
  | rate | ignoredTopLevel | bodySizeRounded =>
    exact hother (.append (.append (.append (.append (by decide) _) _) _) _)

/-! ### The statements -/

/-- The unmodelled statements from the first location block on. -/
def droppedStatements (ns : List Node) : List Node := (ns.dropWhile (!·.isLocation)).filter Node.isUnmodelled

/-- The warning about a statement that was dropped. -/
def Node.ignored (n : Node) : Warning := .ignored n.isBlock n.name

/-! ### What a server does -/

namespace Draft

theorem ignored_unmodelled (d : Draft) (n : Node) :
    (d.unmodelled n).ignored = if d.locationSeen then d.ignored ++ [n.ignored] else d.ignored := by
  unfold unmodelled
  split_ifs
  · exact List.filter_append _ _
  · rfl

/-- A run reports all unmodelled statements once a location has been seen, and before that none. -/
theorem ignored_run {ns : List Node} {d e : Draft} (h : ns.foldlM serverStatement d = .ok e) :
    e.ignored = d.ignored ++
      (if d.locationSeen then ns.filter Node.isUnmodelled else droppedStatements ns).map Node.ignored := by
  induction ns generalizing d with
  | nil =>
    cases h
    simp [droppedStatements]
  | cons n ns ih =>
    rw [List.foldlM_cons] at h
    obtain ⟨d', hd', hrest⟩ := exists_of_bind_eq_ok h
    have hstep := d.remainder_serverStatement n d' hd'
    rw [ih hrest]
    split_ifs at hstep with hn
    · have hlocation := Node.isLocation_of_isUnmodelled hn
      have hseen : d'.locationSeen = d.locationSeen := by
        rw [hstep, unmodelled]
        split_ifs <;> rfl
      rw [hseen, hstep, ignored_unmodelled]
      cases d.locationSeen <;> simp [droppedStatements, hn, hlocation]
    · obtain ⟨hremainder, hignored⟩ := hstep
      have hseen : d'.locationSeen = (d.locationSeen || n.isLocation) := congrArg Remainder.locationSeen hremainder
      rw [hseen, hignored]
      cases d.locationSeen <;> cases hlocation : n.isLocation <;> simp [droppedStatements, hn, hlocation]

end Draft

/-! ### The whole import -/

namespace Import
variable {nodes : List Node} {errors : List String} {i : Import} {s : Node} {ss : List Node}

/-- The warnings about dropped statements are those about the unmodelled statements from the first location on. -/
theorem ignored_eq (h : ofNodes nodes errors = .ok i) (hs : (fileScope nodes).filter Node.isServer = s :: ss) :
    i.warnings.filter Warning.isIgnored = (droppedStatements (chooseServer s ss).1.children).map Node.ignored := by
  obtain ⟨d, e, f, ⟨other, redirected, candidates, hd⟩, he, ⟨us, hf⟩, -, hwarnings⟩ := exists_runs h hs
  have hstart : d.locationSeen = false ∧ d.ignored = [] := by
    obtain ⟨rate, ws, hws, rfl⟩ := changes_fileDraft other redirected candidates d hd
    exact ⟨rfl, hws.filter_eq_nil⟩
  have hupstream : f.ignored = e.ignored := by
    obtain ⟨upstream, ws, hws, rfl⟩ := e.changes_withUpstreams us f hf
    exact Draft.ignored_of_silent hws rfl
  have hrun := Draft.ignored_run he
  rw [hstart.1, hstart.2, List.nil_append, if_neg Bool.false_ne_true] at hrun
  rw [hwarnings, Draft.finish_eq]
  exact hupstream.trans hrun

/-- Each unmodelled statement of the server is either kept as text or reported by its kind and its name, in order, and
no other statement is. -/
theorem unmodelled_accounted (h : ofNodes nodes errors = .ok i)
    (hs : (fileScope nodes).filter Node.isServer = s :: ss) :
    let children := (chooseServer s ss).1.children
    i.site.customDirectives = joinLines (serialize 0 (keptStatements children)) ∧
      i.warnings.filter Warning.isIgnored = (droppedStatements children).map Node.ignored ∧
      (i.warnings.map Warning.message).filter readsIgnored = (droppedStatements children).map fun n =>
        "Ignored " ++ Warning.kind n.isBlock ++ " \"" ++ n.name ++ "\"" := by
  intro children
  have hignored := ignored_eq h hs
  refine ⟨customDirectives_eq h hs, hignored, ?_⟩
  calc (i.warnings.map Warning.message).filter readsIgnored
    _ = (i.warnings.filter Warning.isIgnored).map Warning.message := by
      rw [List.filter_map]
      exact congrArg (List.map _) (List.filter_congr fun w _ => readsIgnored_message w)
    _ = (droppedStatements children).map (Warning.message ∘ Node.ignored) := by rw [hignored, List.map_map]
    _ = _ := rfl

/-- Unmodelled statements on both sides of a location that is skipped, and a block in a pool. -/
theorem unmodelled_accounted_skipped :
    let pool := Node.block "upstream" ["app"] 1 [.block "if" ["$bad"] 2 []]
    let server := Node.block "server" [] 3
      [.directive "set" ["$tenant", "main"] 4, .directive "add_header" ["X-Frame-Options", "DENY"] 5,
        .directive "add_header" ["X-Served-By", "edge 1"] 6, .block "location" [] 7 [],
        .directive "gzip_vary" ["on"] 8, .directive "etag" ["off"] 9, .block "if" ["$bad"] 10 [],
        .directive "add_header" ["X-Served-By", "edge 2"] 11]
    ∃ i, ofNodes [pool, server] [] = .ok i ∧ (fileScope [pool, server]).filter Node.isServer = [server] ∧
      i.site.customDirectives = "set $tenant main;\nadd_header X-Served-By \"edge 1\";" ∧
      i.warnings.filter Warning.isIgnored = [.ignored false "etag", .ignored true "if", .ignored false "add_header"] ∧
      (i.warnings.map Warning.message).filter readsIgnored =
        ["Ignored directive \"etag\"", "Ignored block \"if\"", "Ignored directive \"add_header\""] := by
  intro pool server
  have hs : (fileScope [pool, server]).filter Node.isServer = [server] := rfl
  obtain ⟨i, hi⟩ := exists_of_isOk (show (ofNodes [pool, server] []).isOk = true by decide +kernel)
  obtain ⟨hkept, hignored, hmessages⟩ := unmodelled_accounted hi hs
  exact ⟨i, hi, hs, hkept.trans (by decide +kernel), hignored.trans (by decide +kernel),
    hmessages.trans (by decide +kernel)⟩

end Import
end SiteConf
