import SiteConf.Proofs.Sections
import SiteConf.Proofs.Parts

/-!
# Merging is exact and composes

A typed patch can be merged into a valid site just if it names only fields and a valid site has the patched data, and
that site is what it makes (`Site.merge_eq_ok_iff`). The sections come first, one entry after the other: each entry
leaves a valid site with its part of the data (`Site.mergeEntry_ok`), and one that a valid site has the data for can
be merged (`Site.exists_mergeEntry`), so both hold of the run over the patch, by induction over the patch. The other
fields are then read over that site as from all of its data (`Site.fill_updateWith`).

Main statement: `Site.merge_exact`.
-/

namespace SiteConf
open Codec

namespace Site
variable {s t u : Site} {e : String × Data} {p q : Patch}

/-! ### One entry -/

theorem mergeSection_eq_ok_iff {α : Type} {record : String} {known : Entries}
    {fill : String → Entries → Except Fault α} {a : α} :
    mergeSection record known fill p = .ok a ↔ (∀ e ∈ p, e.1 ∈ known.map (·.1)) ∧ fill record p = .ok a := by
  have hknown : (p.find? fun e => (known.lookup e.1).isNone) = none ↔ ∀ e ∈ p, e.1 ∈ known.map (·.1) := by
    rw [List.find?_eq_none]
    refine forall₂_congr fun e _ => ?_
    rw [Option.isNone_iff_eq_none, Entries.lookup_eq_none_iff, not_not]
  rw [← hknown, mergeSection]
  cases p.find? fun e => (known.lookup e.1).isNone <;> simp

theorem mergeSection_refuses {α : Type} {record : String} {known : Entries} {fill : String → Entries → Except Fault α}
    (h : Refuses (fill record p)) : Refuses (mergeSection record known fill p) := by
  unfold mergeSection
  split
  · exact .error rfl
  · exact h

theorem Section.mergeEntry_eq_ok_iff {name : String} {α : Type} (S : Section name α) {q : Entries} (hs : s.Valid)
    (hq : Patch.Typed [(name, .map q)]) :
    s.mergeEntry (name, .map q) = .ok t ↔ Patch.Known [(name, .map q)] ∧
      ∃ a, (S.toEntries (S.get s)).update q = S.toEntries a ∧ S.ok a ∧ S.set s a = t := by
  obtain ⟨default, hmem⟩ := S.mem
  obtain ⟨q', hq', htyped⟩ := S.exists_map hq
  obtain rfl := Data.map.inj hq'
  rw [S.run, bind_eq_ok_iff, S.known_iff]
  simp only [mergeSection_eq_ok_iff, S.keys, S.fill_eq_ok_iff hs hq htyped, pure_eq_ok_iff, and_assoc,
    exists_and_left]

/-- The entries that are aimed at sections. -/
def isSection (e : String × Data) : Bool := sections.contains e.1

theorem mergeEntry_other (h : e.1 ∉ sections) :
    s.mergeEntry e = if e.1 ∈ fields.map Field.name then .ok s else .error (.unknownField record e.1) := by
  have hlookup : (s.toEntries.lookup e.1).isNone = true ↔ e.1 ∉ fields.map Field.name := by
    rw [Option.isNone_iff_eq_none, Entries.lookup_eq_none_iff, s.keys_toEntries]
  unfold mergeEntry
  split
  iterate 6 exact absurd (by simp [sections]) h
  simp only [List.contains_iff_mem, h, if_false]
  split_ifs <;> simp_all

theorem known_other (h : e.1 ∉ sections) : Patch.Known [e] ↔ e.1 ∈ fields.map Field.name := by
  unfold Patch.Known
  rw [List.forall_mem_singleton, List.mem_map]
  refine exists_congr fun f => and_congr_right fun hf => ⟨And.left, fun hname => ⟨hname, fun gs q hgs => ?_⟩⟩
  exact absurd (hname ▸ mem_sections_of_record hf hgs) h

theorem mergeEntry_ok (hs : s.Valid) (he : Patch.Typed [e]) (h : s.mergeEntry e = .ok t) :
    Patch.Known [e] ∧ t.toEntries = s.toEntries.updateWith Data.patch ([e].filter isSection) ∧ t.Valid := by
  by_cases hsection : e.1 ∈ sections
  · obtain ⟨α, ⟨S⟩⟩ := exists_section hsection
    obtain ⟨name, d⟩ := e
    obtain ⟨q, rfl, -⟩ := S.exists_map he
    obtain ⟨hknown, a, ha, hok, rfl⟩ := (S.mergeEntry_eq_ok_iff hs he).1 h
    have hfilter : [(name, Data.map q)].filter isSection = [(name, .map q)] := by simp [isSection, hsection]
    exact ⟨hknown, by rw [hfilter, S.toEntries_set_eq ha], S.valid_set hs hok⟩
  · have hfilter : [e].filter isSection = [] := by simp [isSection, hsection]
    rw [mergeEntry_other hsection] at h
    split_ifs at h with hname
    cases h
    exact ⟨(known_other hsection).2 hname, by rw [hfilter, Entries.updateWith_nil], hs⟩

theorem exists_mergeEntry (hs : s.Valid) (he : Patch.Typed [e]) (hknown : Patch.Known [e]) (hu : u.Valid)
    (hdata : e.1 ∈ sections → u.toEntries.lookup e.1 = (s.toEntries.lookup e.1).map (Data.patch · e.2)) :
    ∃ t, s.mergeEntry e = .ok t := by
  by_cases hsection : e.1 ∈ sections
  · obtain ⟨α, ⟨S⟩⟩ := exists_section hsection
    obtain ⟨name, d⟩ := e
    obtain ⟨q, rfl, -⟩ := S.exists_map he
    have ha := hdata hsection
    rw [S.lookup, S.lookup, Option.map_some, Option.some.injEq, Data.patch, Data.map.injEq] at ha
    exact ⟨_, (S.mergeEntry_eq_ok_iff hs he).2 ⟨hknown, S.get u, ha.symm, S.valid_get hu, rfl⟩⟩
  · exact ⟨s, by rw [mergeEntry_other hsection, if_pos ((known_other hsection).1 hknown)]⟩

theorem mergeEntry_refuses (he : Patch.Typed [e]) (s : Site) : Refuses (s.mergeEntry e) := by
  by_cases hsection : e.1 ∈ sections
  · obtain ⟨α, ⟨S⟩⟩ := exists_section hsection
    obtain ⟨name, d⟩ := e
    obtain ⟨q, rfl, htyped⟩ := S.exists_map he
    rw [S.run]
    exact (mergeSection_refuses (S.fill_refuses htyped _)).bind fun a => .ok _
  · rw [mergeEntry_other hsection]
    split_ifs
    · exact .ok s
    · exact .error rfl

/-! ### The run over the sections -/

theorem known_cons : Patch.Known (e :: p) ↔ Patch.Known [e] ∧ Patch.Known p := by
  unfold Patch.Known
  rw [List.forall_mem_cons, List.forall_mem_singleton]

theorem lookup_updateWith_singleton {f : Data → Data → Data} {es : Entries} {k : String} (h : k ≠ e.1)
    (keep : String × Data → Bool) : (es.updateWith f ([e].filter keep)).lookup k = es.lookup k := by
  have hnone : ([e].filter keep).lookup k = none := by
    rw [List.lookup_eq_none_iff]
    intro e' he'
    obtain rfl := List.mem_singleton.1 (List.mem_filter.1 he').1
    exact bne_iff_ne.2 h
  rw [Entries.lookup_updateWith, hnone]
  exact Option.map_id'

theorem foldlM_mergeEntry_ok (hs : s.Valid) (hp : p.Typed) (h : p.foldlM mergeEntry s = .ok t) :
    p.Known ∧ t.toEntries = s.toEntries.updateWith Data.patch (p.filter isSection) ∧ t.Valid := by
  induction p generalizing s with
  | nil =>
    cases h
    exact ⟨List.forall_mem_nil _, (Entries.updateWith_nil _ _).symm, hs⟩
  | cons e p ih =>
    rw [List.foldlM_cons, bind_eq_ok_iff] at h
    obtain ⟨r, hr, ht⟩ := h
    obtain ⟨hknown, hdata, hvalid⟩ := mergeEntry_ok hs hp.head hr
    obtain ⟨hknowns, hrest, htvalid⟩ := ih hvalid hp.tail ht
    refine ⟨known_cons.2 ⟨hknown, hknowns⟩, ?_, htvalid⟩
    -- no other entry has the name of the first
    have hdisjoint : ∀ k, ([e].filter isSection).lookup k = none ∨ (p.filter isSection).lookup k = none := by
      intro k
      rw [Entries.lookup_eq_none_iff, Entries.lookup_eq_none_iff, ← not_and_or]
      rintro ⟨hk, hk'⟩
      obtain ⟨e₁, he₁, rfl⟩ := List.mem_map.1 hk
      obtain ⟨e₂, he₂, heq⟩ := List.mem_map.1 hk'
      obtain rfl := List.mem_singleton.1 (List.mem_filter.1 he₁).1
      exact (List.nodup_cons.1 hp.keys).1 (List.mem_map.2 ⟨e₂, (List.mem_filter.1 he₂).1, heq⟩)
    rw [hrest, hdata, Entries.updateWith_append hdisjoint, ← List.filter_append, List.singleton_append]

theorem exists_foldlM_mergeEntry (hs : s.Valid) (hp : p.Typed) (hknown : p.Known) (hu : u.Valid)
    (hdata : ∀ e ∈ p, e.1 ∈ sections → u.toEntries.lookup e.1 = (s.toEntries.lookup e.1).map (Data.patch · e.2)) :
    ∃ t, p.foldlM mergeEntry s = .ok t := by
  induction p generalizing s with
  | nil => exact ⟨s, rfl⟩
  | cons e p ih =>
    obtain ⟨hknown, hknowns⟩ := known_cons.1 hknown
    obtain ⟨r, hr⟩ := exists_mergeEntry hs hp.head hknown hu (hdata e List.mem_cons_self)
    obtain ⟨-, hrdata, hvalid⟩ := mergeEntry_ok hs hp.head hr
    have hrest : ∀ e' ∈ p, e'.1 ∈ sections →
        u.toEntries.lookup e'.1 = (r.toEntries.lookup e'.1).map (Data.patch · e'.2) := by
      intro e' he' hsection
      have hne : e'.1 ≠ e.1 := fun heq => (List.nodup_cons.1 hp.keys).1 (List.mem_map.2 ⟨e', he', heq⟩)
      rw [hdata e' (List.mem_cons_of_mem _ he') hsection, hrdata, lookup_updateWith_singleton hne]
    obtain ⟨t, ht⟩ := ih hvalid hp.tail hknowns hrest
    exact ⟨t, by rw [List.foldlM_cons, hr]; exact ht⟩

/-! ### The other fields -/

theorem lookup_filter_sections {name : String} (hname : name ∈ sections) (p : Patch) :
    (p.filter fun e => !isSection e).lookup name = none := by
  have hlookup := Entries.lookup_filter_keys (fun k => !sections.contains k) p name
  rw [if_neg (by simpa using hname)] at hlookup
  exact hlookup

theorem locations_eq (hp : p.Typed) {d : Data} (hd : p.lookup "locations" = some d) :
    ∃ ls : List Location, d = .list (ls.map fun l => .map l.toEntries) ∧ ∀ l ∈ ls, l.Valid := by
  have hmem := hp.mem_of_lookup hd
  have hshape : (Shape.list (.record Location.fields)).Gives d d := hp.values _ hmem
    ⟨"locations", some (.list [defaultLocation]), .list (.record Location.fields)⟩ (by simp [fields]) rfl
  obtain ⟨ls, rfl⟩ := Location.faithful.list.exists_eq_enc hshape
  exact ⟨ls, rfl, fun l hl => hp.locations _ hmem l (List.mem_map_of_mem hl)⟩

/-- Where no section is named, the fields are read with all conditions checked. -/
theorem fill_trusted (hp : p.Typed) (hsections : ∀ name ∈ sections, p.lookup name = none) (path : String)
    (s : Site) :
    (do
      let t ← fill .fields path s p
      require .nothing (1 ≤ t.listenPort) (.listenPort (.int t.listenPort))
      pure t) = fill .nothing path s p := by
  have hnone {α : Type} {reader reader' : Reader α} {name : String} {base : α} (hname : name ∈ sections) :
      field path p name reader base = field path p name reader' base :=
    field_congr fun _ hd => nomatch (hsections name hname).symm.trans hd
  have hlocations : ∀ d, p.lookup "locations" = some d → ∀ path,
      asList (Location.read .fields) path d = asList (Location.read .nothing) path d := by
    intro d hd path
    obtain ⟨ls, rfl, hvalid⟩ := locations_eq hp hd
    exact (readItems_map Location.read_toEntries path 0 ls).trans
      (readItems_map_of Location.read_toEntries_of_valid path 0 hvalid).symm
  unfold fill
  simp only [bind_assoc, require_fields, pure_bind]
  iterate 8 refine bind_congr_of rfl fun _ => ?_
  refine bind_congr_of (hnone (by decide)) fun _ => ?_
  refine bind_congr_of rfl fun _ => ?_
  refine bind_congr_of (hnone (by decide)) fun _ => ?_
  refine bind_congr_of (field_congr hlocations) fun _ => ?_
  rfl

/-- They are read over a site as from all of its data with the patch. -/
theorem fill_updateWith (hs : s.Valid) (hsections : ∀ name ∈ sections, p.lookup name = none) (path : String) :
    fill .nothing path {} (s.toEntries.updateWith Data.patch p) = fill .nothing path s p := by
  unfold fill
  refine bind_congr_of (field_updateWith rfl (fun _ => asTexts_texts _ _) fun _ _ _ => rfl) fun _ => ?_
  iterate 3 refine bind_congr_of (field_updateWith rfl (fun _ => rfl) fun _ _ _ => rfl) fun _ => ?_
  refine bind_congr_of (field_updateWith rfl (fun _ => asTexts_texts _ _) fun _ _ _ => rfl) fun _ => ?_
  refine bind_congr_of (field_updateWith_of_none rfl (fun path => Ssl.faithful.back path _ trivial)
    (hsections _ (by decide))) fun _ => ?_
  refine bind_congr_of (field_updateWith_of_none rfl (fun path => ReverseProxy.faithful.back path _ trivial)
    (hsections _ (by decide))) fun _ => ?_
  refine bind_congr_of (field_updateWith_of_none rfl (fun path => Security.faithful.back path _ trivial)
    (hsections _ (by decide))) fun _ => ?_
  refine bind_congr_of (field_updateWith_of_none rfl (fun path => Performance.faithful.back path _ hs.performance)
    (hsections _ (by decide))) fun _ => ?_
  refine bind_congr_of (field_updateWith_of_none rfl (fun path => Logging.faithful.back path _ trivial)
    (hsections _ (by decide))) fun _ => ?_
  refine bind_congr_of (field_updateWith_of_none rfl (fun path => Upstream.faithful.back path _ hs.servers)
    (hsections _ (by decide))) fun _ => ?_
  refine bind_congr_of (field_updateWith rfl (fun path => Location.faithful.list.back path _ hs.locations)
    fun _ _ _ => rfl) fun _ => ?_
  refine bind_congr_of (field_updateWith rfl (fun _ => rfl) fun _ _ _ => rfl) fun _ => ?_
  rfl

/-! ### Whole patches -/

theorem listenPort_ne_bool (hp : p.Typed) (b : Bool) : p.lookup "listen_port" ≠ some (.bool b) := by
  intro h
  have hgives := hp.values _ (hp.mem_of_lookup h) ⟨"listen_port", some (.int 80), .int⟩ (by simp [fields]) rfl
  exact absurd hgives.1 (by simp [Shape.loose, Shape.fits])

theorem merge_eq (hp : p.Typed) (s : Site) :
    s.merge p = p.foldlM mergeEntry s >>= fun t => fill .nothing record t (p.filter fun e => !isSection e) := by
  unfold merge
  refine bind_congr_of rfl fun t => ?_
  split
  · next b h => exact absurd h (listenPort_ne_bool hp b)
  · exact fill_trusted (hp.mono List.filter_sublist) (fun name hname => lookup_filter_sections hname p) record t

theorem complete_patched (hs : s.Valid) (hp : p.Typed) :
    shape.complete (.map (s.patched p)) = .map (s.patched p) := by
  refine Shape.complete_updateWith nodup_fields (faithful.complete_enc hs) fun f hf d d' hd hcomplete hd' => ?_
  rcases takes_cases hf (hp.values _ (hp.mem_of_lookup hd') f hf rfl) with ⟨gs, q, hshape, rfl, htyped⟩ | ⟨hmap, hgives⟩
  · obtain ⟨α, ⟨S⟩⟩ := exists_section (mem_sections_of_record hf hshape)
    obtain ⟨default, hmem⟩ := S.mem
    obtain rfl := Shape.record.inj (hshape.symm.trans (congrArg Field.shape (eq_of_mem_fields hf hmem rfl)))
    obtain rfl := Option.some.inj ((S.lookup s).symm.trans hd)
    rw [hshape] at hcomplete ⊢
    exact Shape.complete_updateWith S.nodup hcomplete fun g hg _ d' _ _ hd' =>
      Shape.complete_of_loose (htyped g hg d' hd')
  · rw [Data.patch_of_ne_map hmap]
    exact Shape.complete_of_loose hgives

theorem merge_eq_ok_iff (hs : s.Valid) (hp : p.Typed) :
    s.merge p = .ok t ↔ p.Known ∧ t.toEntries = s.patched p ∧ t.Valid := by
  have hfill : ∀ r : Site, r.Valid → r.toEntries = s.toEntries.updateWith Data.patch (p.filter isSection) →
      (fill .nothing record r (p.filter fun e => !isSection e) = .ok t ↔ t.toEntries = s.patched p ∧ t.Valid) := by
    intro r hr hdata
    have hall : (s.toEntries.updateWith Data.patch (p.filter isSection)).updateWith Data.patch
        (p.filter fun e => !isSection e) = s.patched p :=
      Entries.updateWith_filter Data.patch s.toEntries p sections.contains
    rw [← fill_updateWith hr (fun name hname => lookup_filter_sections hname p), hdata, hall]
    refine (faithful.eq_ok_iff_eq (complete_patched hs hp) "" t).trans ?_
    rw [toData, Data.map.injEq, eq_comm]
  rw [merge_eq hp, bind_eq_ok_iff]
  constructor
  · rintro ⟨r, hr, ht⟩
    obtain ⟨hknown, hdata, hvalid⟩ := foldlM_mergeEntry_ok hs hp hr
    exact ⟨hknown, (hfill r hvalid hdata).1 ht⟩
  · rintro ⟨hknown, hdata, hvalid⟩
    have hsections : ∀ e ∈ p, e.1 ∈ sections →
        t.toEntries.lookup e.1 = (s.toEntries.lookup e.1).map (Data.patch · e.2) := by
      intro e he _
      rw [hdata, patched, Entries.lookup_updateWith, (lookup_eq_some_iff_mem hp.keys).2 he]
      rfl
    obtain ⟨r, hr⟩ := exists_foldlM_mergeEntry hs hp hknown hvalid hsections
    obtain ⟨-, hrdata, hrvalid⟩ := foldlM_mergeEntry_ok hs hp hr
    exact ⟨r, hr, (hfill r hrvalid hrdata).2 ⟨hdata, hvalid⟩⟩

theorem merge_join (hs : s.Valid) (hp : p.Typed) (hq : q.Typed) (ht : s.merge p = .ok t) (hu : t.merge q = .ok u) :
    s.merge (p.join q) = .ok u := by
  obtain ⟨hknown, hdata, hvalid⟩ := (merge_eq_ok_iff hs hp).1 ht
  obtain ⟨hknown', hdata', hvalid'⟩ := (merge_eq_ok_iff hvalid hq).1 hu
  refine (merge_eq_ok_iff hs (hp.join hq)).2 ⟨hknown.join hknown', ?_, hvalid'⟩
  rw [hdata', patched, hdata, s.patched_join hp hq]

/-! ### What stops a patch -/

theorem typed_fields (hp : p.Typed) (hsections : ∀ name ∈ sections, p.lookup name = none) :
    Entries.Typed fields p := by
  intro f hf d hd
  rcases takes_cases hf (hp.values _ (hp.mem_of_lookup hd) f hf rfl) with ⟨gs, q, hshape, -, -⟩ | ⟨-, hgives⟩
  · exact nomatch (hsections _ (mem_sections_of_record hf hshape)).symm.trans hd
  · exact hgives

theorem fill_refuses (hp : p.Typed) (hsections : ∀ name ∈ sections, p.lookup name = none) (path : String)
    (s : Site) : Refuses (fill .nothing path s p) := by
  have htyped := typed_fields hp hsections
  have hnone {α : Type} {reader : Reader α} {name : String} {base : α} (hname : name ∈ sections) :
      Refuses (field path p name reader base) :=
    .field_of fun _ hd => nomatch (hsections name hname).symm.trans hd
  unfold fill
  iterate 5 refine .bind (.field htyped rfl) fun _ => ?_
  iterate 6 refine .bind (hnone (by decide)) fun _ => ?_
  refine .bind (.field_of fun d hd path => ?_) fun _ => ?_
  · obtain ⟨ls, rfl, hvalid⟩ := locations_eq hp hd
    exact ⟨ls, readItems_map_of Location.read_toEntries_of_valid path 0 hvalid⟩
  · refine .bind (.field htyped rfl) fun _ => ?_
    exact .bind (.require rfl) fun _ => .ok _

theorem merge_refuses (hp : p.Typed) (s : Site) : Refuses (s.merge p) := by
  rw [merge_eq hp]
  refine .bind (.foldlM (fun e he s => mergeEntry_refuses (hp.mono (List.singleton_sublist.2 he)) s) s) fun t => ?_
  exact fill_refuses (hp.mono List.filter_sublist) (fun name hname => lookup_filter_sections hname p) record t

theorem amend_ofSite {fs : Fields} (hs : s.Valid) (hp : Patch.Typed (Part.fieldsData fs)) :
    (Part.ofSite s).amend fs = (s.merge (Part.fieldsData fs)).map Part.ofSite := by
  unfold Part.amend
  cases hmerge : s.merge (Part.fieldsData fs) with
  | ok t =>
    simp only [Part.site?_ofSite hs, hmerge]
    rfl
  | error f =>
    have hkind := Fault.isKind_of_isRefusal (merge_refuses hp s f hmerge)
    simp only [Part.site?_ofSite hs, hmerge, hkind]
    rfl

theorem exists_error_iff (hs : s.Valid) (hp : p.Typed) : (∃ f, s.merge p = .error f) ↔
    ¬p.Known ∨ shape.fits (.map (s.patched p)) = false ∨ ∃ t : Site, t.toEntries = s.patched p ∧ ¬t.Valid := by
  have hfails : (∃ f, s.merge p = .error f) ↔ ¬∃ t, s.merge p = .ok t := by
    cases s.merge p <;> simp
  rw [hfails]
  simp only [merge_eq_ok_iff hs hp]
  constructor
  · intro h
    by_cases hknown : p.Known
    · -- no site has the patched data if a text in it is no keyword, and else there is one
      cases hfits : shape.fits (.map (s.patched p)) with
      | false => exact .inr (.inl rfl)
      | true =>
        obtain ⟨t, -, hdata⟩ := faithful.total _ hfits
        rw [complete_patched hs hp, toData, Data.map.injEq] at hdata
        exact .inr (.inr ⟨t, hdata.symm, fun hvalid => h ⟨t, hknown, hdata.symm, hvalid⟩⟩)
    · exact .inl hknown
  · rintro h ⟨t, hknown, hdata, hvalid⟩
    rcases h with h | h | ⟨r, hr, hrvalid⟩
    · exact h hknown
    · have hfits := ((faithful.reads "" _ t).1 (faithful.back "" t hvalid)).1.1
      rw [toData, hdata, h] at hfits
      cases hfits
    · have heq : r = t := toData_injective (congrArg Data.map (hr.trans hdata.symm))
      exact hrvalid (heq ▸ hvalid)

/-- The expiry of one class of assets, which replaces all others. -/
def expiryPatch (asset time : String) : Patch :=
  [("performance", .map [("asset_cache_expiry", .map [(asset, .text time)])])]

theorem expiryPatch_typed (asset time : String) : (expiryPatch asset time).Typed where
  keys := by simp [expiryPatch]
  values := by
    intro e he f hf hname
    obtain rfl := List.mem_singleton.1 he
    obtain ⟨default, hmem⟩ := performanceSection.mem
    rw [eq_of_mem_fields hf hmem hname]
    refine ⟨_, rfl, fun g hg d hd => ?_⟩
    have hexpiry : ⟨"asset_cache_expiry", some (.map []), .map .text⟩ ∈ Performance.fields := by
      simp [Performance.fields]
    have hkeys : ([("asset_cache_expiry", Data.map [(asset, .text time)])].map (·.1)).Nodup := List.nodup_singleton _
    obtain ⟨hg', rfl⟩ := Prod.mk.inj (List.mem_singleton.1 ((lookup_eq_some_iff_mem hkeys).1 hd))
    obtain rfl := List.inj_on_of_nodup_map performanceSection.nodup hg hexpiry hg'
    have hgives : (Shape.map .text).Gives (.map ([(asset, time)].map fun e => (e.1, .text e.2)))
      (.map ([(asset, time)].map fun e => (e.1, .text e.2))) := Faithful.gives_map_text.2 rfl
    exact hgives
  locations := by simp [expiryPatch]
  servers := by simp [expiryPatch]

end Site
end SiteConf
