import SiteConf.Proofs.Described
import SiteConf.Proofs.Signature

/-!
# Patched data

What the data of a site is with a patch merged in, the conditions on sites apart: a map aimed at a section changes
the fields that it names, and every other value takes the place of a field (`Site.patched`). `Patch.join` makes two
patches one, of which the second counts more.

A patch is `Patch.Typed` if its values are of the types of their fields. The records of a list are complete and valid,
as they can be made in no other way; any text may stand for a keyword.

Main statements: two patches as one are typed and name fields if both do (`Patch.Typed.join`, `Patch.Known.join`), and
patching with them is patching with one after the other (`Site.patched_join`).
-/

namespace SiteConf
open Codec

/-! ### Entries with new values -/

namespace Entries

/-- The entries, each with what `f` makes of its value and the one that a patch has for its name. -/
def updateWith (f : Data → Data → Data) (es p : Entries) : Entries :=
  es.map fun e => (e.1, ((p.lookup e.1).map (f e.2)).getD e.2)

/-- Two patches as one: where both have a value for a name, what `f` makes of the two. -/
def joinWith (f : Data → Data → Data) (p q : Entries) : Entries :=
  p.updateWith f q ++ q.filter fun e => (p.lookup e.1).isNone

def update (es p : Entries) : Entries := es.updateWith (fun _ d => d) p

/-- Two patches as one, of which the second counts more. -/
def override (p q : Entries) : Entries := p.joinWith (fun _ d => d) q

variable {f g : Data → Data → Data} {es p q : Entries}

theorem lookup_updateWith (f : Data → Data → Data) (es p : Entries) (k : String) :
    (es.updateWith f p).lookup k = (es.lookup k).map fun d => ((p.lookup k).map (f d)).getD d := by
  induction es with
  | nil => rfl
  | cons e es ih =>
    rw [updateWith, List.map_cons, List.lookup_cons, List.lookup_cons, ← updateWith, ih]
    by_cases hk : k = e.1
    · subst hk
      simp
    · simp [beq_eq_false_iff_ne.2 hk]

theorem keys_updateWith (f : Data → Data → Data) (es p : Entries) : (es.updateWith f p).map (·.1) = es.map (·.1) := by
  rw [updateWith, List.map_map]
  rfl

theorem lookup_filter_keys (keep : String → Bool) (es : Entries) (k : String) :
    (es.filter fun e => keep e.1).lookup k = if keep k then es.lookup k else none := by
  induction es with
  | nil => simp
  | cons e es ih =>
    rw [List.filter_cons]
    by_cases hk : k = e.1
    · subst hk
      split_ifs with hkeep
      · rw [List.lookup_cons_self, List.lookup_cons_self]
      · rw [ih, if_neg hkeep]
    · have hne : (k == e.1) = false := beq_eq_false_iff_ne.2 hk
      by_cases hkeep : keep e.1 = true
      · rw [if_pos hkeep, List.lookup_cons, List.lookup_cons, hne]
        exact ih
      · rw [if_neg hkeep, List.lookup_cons, hne]
        exact ih

theorem lookup_joinWith (f : Data → Data → Data) (p q : Entries) (k : String) :
    (p.joinWith f q).lookup k = match p.lookup k with
      | some d => some (((q.lookup k).map (f d)).getD d)
      | none => q.lookup k := by
  rw [joinWith, List.lookup_append, lookup_updateWith, lookup_filter_keys fun k => (p.lookup k).isNone]
  cases p.lookup k <;> simp

theorem lookup_eq_none_iff {k : String} : es.lookup k = none ↔ k ∉ es.map (·.1) := by
  rw [List.lookup_eq_none_iff, List.mem_map]
  constructor
  · rintro h ⟨e, he, rfl⟩
    exact absurd (h e he) (by simp)
  · exact fun h e he => bne_iff_ne.2 fun hk => h ⟨e, he, hk.symm⟩

theorem mem_joinWith {e : String × Data} (h : e ∈ p.joinWith f q) :
    e ∈ p ∨ e ∈ q ∨ ∃ d d', (e.1, d) ∈ p ∧ (e.1, d') ∈ q ∧ e.2 = f d d' := by
  rcases List.mem_append.1 h with hmem | hmem
  · obtain ⟨e, he, rfl⟩ := List.mem_map.1 hmem
    cases hd : q.lookup e.1 with
    | none => exact .inl he
    | some d' =>
      obtain ⟨before, after, hq, -⟩ := List.lookup_eq_some_iff.1 hd
      exact .inr (.inr ⟨e.2, d', he, by simp [hq], rfl⟩)
  · exact .inr (.inl (List.mem_of_mem_filter hmem))

theorem keys_joinWith_nodup (hp : (p.map (·.1)).Nodup) (hq : (q.map (·.1)).Nodup) :
    ((p.joinWith f q).map (·.1)).Nodup := by
  rw [joinWith, List.map_append, keys_updateWith, List.nodup_append]
  refine ⟨hp, hq.sublist (List.filter_sublist.map _), fun k hk k' hk' heq => ?_⟩
  obtain ⟨e, he, rfl⟩ := List.mem_map.1 hk'
  have hnone := (List.mem_filter.1 he).2
  subst heq
  obtain ⟨e', he', hkey⟩ := List.mem_map.1 hk
  rw [Option.isNone_iff_eq_none, List.lookup_eq_none_iff] at hnone
  exact absurd hkey.symm (by simpa using hnone e' he')

/-- Patching with one after the other is patching with both, if this is so for the values. -/
theorem updateWith_updateWith (h : ∀ e ∈ es, ∀ d d', p.lookup e.1 = some d → q.lookup e.1 = some d' →
    f (f e.2 d) d' = f e.2 (g d d')) : (es.updateWith f p).updateWith f q = es.updateWith f (p.joinWith g q) := by
  simp only [updateWith, List.map_map]
  refine List.map_congr_left fun e he => ?_
  let patched := ((p.lookup e.1).map (f e.2)).getD e.2
  show (e.1, ((q.lookup e.1).map (f patched)).getD patched) = _
  simp only [patched, lookup_joinWith]
  cases hp : p.lookup e.1 with
  | none => rfl
  | some d =>
    cases hq : q.lookup e.1 with
    | none => rfl
    | some d' => exact congrArg (Prod.mk e.1) (h e he d d' hp hq)

theorem updateWith_congr (h : ∀ k, p.lookup k = q.lookup k) : es.updateWith f p = es.updateWith f q :=
  List.map_congr_left fun e _ => by rw [h]

theorem updateWith_nil (f : Data → Data → Data) (es : Entries) : es.updateWith f [] = es := by
  simp [updateWith]

/-- Patches that share no name can be merged together. -/
theorem updateWith_append (h : ∀ k, p.lookup k = none ∨ q.lookup k = none) :
    (es.updateWith f p).updateWith f q = es.updateWith f (p ++ q) := by
  simp only [updateWith, List.map_map]
  refine List.map_congr_left fun e _ => ?_
  simp only [Function.comp_apply, List.lookup_append]
  rcases h e.1 with hp | hq
  · simp only [hp, Option.map_none, Option.getD_none, Option.none_or]
  · simp only [hq, Option.map_none, Option.getD_none, Option.or_none]

theorem updateWith_filter (f : Data → Data → Data) (es p : Entries) (keep : String → Bool) :
    (es.updateWith f (p.filter fun e => keep e.1)).updateWith f (p.filter fun e => !keep e.1) = es.updateWith f p := by
  have hkept := lookup_filter_keys keep p
  have hrest := lookup_filter_keys (fun k => !keep k) p
  rw [updateWith_append fun k => by rw [hkept, hrest]; cases keep k <;> simp]
  refine updateWith_congr fun k => ?_
  rw [List.lookup_append, hkept, hrest]
  cases keep k <;> simp

theorem update_update (es p q : Entries) : (es.update p).update q = es.update (p.override q) :=
  updateWith_updateWith fun _ _ _ _ _ _ => rfl

theorem lookup_override {k : String} {d : Data} (h : (p.override q).lookup k = some d) :
    p.lookup k = some d ∨ q.lookup k = some d := by
  rw [override, lookup_joinWith] at h
  cases hp : p.lookup k with
  | none =>
    rw [hp] at h
    exact .inr h
  | some d₀ =>
    rw [hp] at h
    cases hq : q.lookup k with
    | none =>
      rw [hq] at h
      exact .inl h
    | some d' =>
      rw [hq] at h
      exact .inr h

end Entries

/-! ### Sites with new values -/

/-- A map aimed at a map is merged into it, and every other value takes its place. -/
def Data.patch : Data → Data → Data
  | .map es, .map p => .map (Entries.update es p)
  | _, d => d

theorem Data.patch_of_ne_map {d d' : Data} (h : ∀ q, d' ≠ .map q) : d.patch d' = d' := by
  unfold Data.patch
  split
  · exact absurd rfl (h _)
  · rfl

/-- The data of a site with a patch merged in. The fields that hold maps are the sections. -/
def Site.patched (s : Site) (p : Patch) : Entries := s.toEntries.updateWith Data.patch p

namespace Patch

/-- Two values for a field as one: maps are joined, and else the second counts. -/
def joinValues : Data → Data → Data
  | .map p, .map q => .map (Entries.override p q)
  | _, d => d

/-- Two patches as one, field by field, of which the second counts more. -/
def join (p q : Patch) : Patch := Entries.joinWith joinValues p q

/-- Every name is that of a field of a site; in a map aimed at a section, that of a field of the section. -/
def Known (p : Patch) : Prop :=
  ∀ e ∈ p, ∃ f ∈ Site.fields, f.name = e.1 ∧
    ∀ fields q, f.shape = .record fields → e.2 = .map q → ∀ g ∈ q, g.1 ∈ fields.map Field.name

end Patch

/-! ### Types of values -/

/-- The type of the values of a field: any text may stand for a keyword. -/
def Shape.loose : Shape → Shape
  | word _ => text
  | shape => shape

/-- The values that the entries have for the fields are complete values of their types. -/
def Entries.Typed (fields : List (Field Shape)) (es : Entries) : Prop :=
  ∀ f ∈ fields, ∀ d, es.lookup f.name = some d → f.shape.loose.Gives d d

/-- The data is a value for a field: for a section a map of values for some of its fields. -/
def Shape.Takes : Shape → Data → Prop
  | record fields, d => ∃ es : Entries, d = .map es ∧ es.Typed fields
  | shape, d => shape.loose.Gives d d

/-- Each field is named once and has a value of its type. -/
structure Patch.Typed (p : Patch) : Prop where
  keys : (p.map (·.1)).Nodup
  values : ∀ e ∈ p, ∀ f ∈ Site.fields, f.name = e.1 → f.shape.Takes e.2
  /-- The locations have passed the check of their makers. -/
  locations : ∀ ds, ("locations", .list ds) ∈ p → ∀ l : Location, .map l.toEntries ∈ ds → l.Valid
  servers : ∀ (es : Entries) ds, ("upstream", .map es) ∈ p → es.lookup "servers" = some (.list ds) →
    ∀ m : PoolMember, .map m.toEntries ∈ ds → m.Valid

namespace Patch.Typed
variable {p : Patch} {e : String × Data}

theorem mono {q : Patch} (hp : p.Typed) (h : q.Sublist p) : q.Typed where
  keys := hp.keys.sublist (h.map _)
  values e he := hp.values e (h.subset he)
  locations ds hds := hp.locations ds (h.subset hds)
  servers es ds hes := hp.servers es ds (h.subset hes)

theorem head (hp : Patch.Typed (e :: p)) : Patch.Typed [e] := hp.mono (List.singleton_sublist.2 List.mem_cons_self)

theorem tail (hp : Patch.Typed (e :: p)) : Patch.Typed p := hp.mono (List.sublist_cons_self e p)

theorem mem_of_lookup (hp : p.Typed) {name : String} {d : Data} (h : p.lookup name = some d) : (name, d) ∈ p :=
  (lookup_eq_some_iff_mem hp.keys).1 h

theorem of_section {name : String} {d : Data} {default : Option Data} {fields : List (Field Shape)}
    (hp : Patch.Typed [(name, d)]) (hmem : Field.mk name default (.record fields) ∈ Site.fields) :
    ∃ es : Entries, d = .map es ∧ es.Typed fields :=
  hp.values _ (List.mem_singleton_self _) _ hmem rfl

end Patch.Typed

/-! ### Two patches as one -/

namespace Site
variable {f g : Field Shape} {d : Data}

theorem keys_toEntries (s : Site) : s.toEntries.map (·.1) = fields.map Field.name := rfl

theorem nodup_fields : (fields.map Field.name).Nodup := by decide

theorem eq_of_mem_fields (hf : f ∈ fields) (hg : g ∈ fields) (h : f.name = g.name) : f = g :=
  List.inj_on_of_nodup_map nodup_fields hf hg h

theorem lookup_of_mem (s : Site) {e : String × Data} (he : e ∈ s.toEntries) : s.toEntries.lookup e.1 = some e.2 :=
  (lookup_eq_some_iff_mem (s.keys_toEntries ▸ nodup_fields)).2 he

theorem mem_sections_of_record (hf : f ∈ fields) {gs : List (Field Shape)} (h : f.shape = .record gs) :
    f.name ∈ sections := by
  revert h
  simp only [fields, List.mem_cons, List.not_mem_nil, or_false] at hf
  rcases hf with rfl | rfl | rfl | rfl | rfl | rfl | rfl | rfl | rfl | rfl | rfl | rfl | rfl <;> simp [sections]

theorem lookup_section {name : String} (h : name ∈ sections) (s : Site) :
    ∃ es, s.toEntries.lookup name = some (.map es) := by
  simp only [sections, List.mem_cons, List.not_mem_nil, or_false] at h
  rcases h with rfl | rfl | rfl | rfl | rfl | rfl <;> exact ⟨_, rfl⟩

theorem takes_cases (hf : f ∈ fields) (h : f.shape.Takes d) :
    (∃ gs, ∃ q : Entries, f.shape = .record gs ∧ d = .map q ∧ q.Typed gs) ∨
      (∀ q, d ≠ .map q) ∧ f.shape.loose.Gives d d := by
  have hmap : ∀ item, f.shape ≠ .map item := by
    intro item
    simp only [fields, List.mem_cons, List.not_mem_nil, or_false] at hf
    rcases hf with rfl | rfl | rfl | rfl | rfl | rfl | rfl | rfl | rfl | rfl | rfl | rfl | rfl <;> simp
  cases hshape : f.shape with
  | record gs =>
    rw [hshape] at h
    obtain ⟨q, hq, htyped⟩ := h
    exact .inl ⟨gs, q, rfl, hq, htyped⟩
  | map item => exact absurd hshape (hmap item)
  | _ =>
    rw [hshape] at h
    refine .inr ⟨?_, h⟩
    rintro q rfl
    exact absurd h.1 (by simp [Shape.loose, Shape.fits])

theorem takes_map (hf : f ∈ fields) {q : Entries} (h : f.shape.Takes (.map q)) :
    ∃ gs, f.shape = .record gs ∧ q.Typed gs := by
  rcases takes_cases hf h with ⟨gs, q', hshape, hq, htyped⟩ | ⟨hmap, -⟩
  · exact ⟨gs, hshape, Data.map.inj hq ▸ htyped⟩
  · exact absurd rfl (hmap q)

end Site

namespace Patch
variable {p q : Patch}

/-- An entry of two patches as one is of one of the two, or it joins the maps that both have for a field. -/
theorem mem_join {e : String × Data} (h : e ∈ p.join q) : e ∈ p ∨ e ∈ q ∨
    ∃ p' q' : Entries, (e.1, .map p') ∈ p ∧ (e.1, .map q') ∈ q ∧ e.2 = .map (p'.override q') := by
  rcases Entries.mem_joinWith h with hp | hq | ⟨d, d', hd, hd', hjoin⟩
  · exact .inl hp
  · exact .inr (.inl hq)
  · unfold joinValues at hjoin
    split at hjoin
    · exact .inr (.inr ⟨_, _, hd, hd', hjoin⟩)
    · have he : e = (e.1, d') := Prod.ext rfl hjoin
      rw [← he] at hd'
      exact .inr (.inl hd')

theorem Known.join (hp : p.Known) (hq : q.Known) : (p.join q).Known := by
  intro e he
  rcases mem_join he with hmem | hmem | ⟨p', q', hd, hd', hjoin⟩
  · exact hp e hmem
  · exact hq e hmem
  · obtain ⟨f, hf, hname, hknown⟩ := hp _ hd
    obtain ⟨f', hf', hname', hknown'⟩ := hq _ hd'
    obtain rfl := Site.eq_of_mem_fields hf hf' (hname.trans hname'.symm)
    refine ⟨f, hf, hname, fun gs r hshape hr g hg => ?_⟩
    obtain rfl := Data.map.inj (hjoin.symm.trans hr)
    rcases Entries.mem_joinWith hg with hgp | hgq | ⟨v, -, hgp, -⟩
    · exact hknown gs p' hshape rfl g hgp
    · exact hknown' gs q' hshape rfl g hgq
    · exact hknown gs p' hshape rfl (g.1, v) hgp

theorem Typed.join (hp : p.Typed) (hq : q.Typed) : (p.join q).Typed where
  keys := Entries.keys_joinWith_nodup hp.keys hq.keys
  values e he f hf hname := by
    rcases mem_join he with hmem | hmem | ⟨p', q', hd, hd', hjoin⟩
    · exact hp.values e hmem f hf hname
    · exact hq.values e hmem f hf hname
    · obtain ⟨gs, hshape, hp'⟩ := Site.takes_map hf (hp.values _ hd f hf hname)
      obtain ⟨gs', hshape', hq'⟩ := Site.takes_map hf (hq.values _ hd' f hf hname)
      obtain rfl := Shape.record.inj (hshape.symm.trans hshape')
      rw [hjoin, hshape]
      exact ⟨_, rfl, fun g hg d h => (Entries.lookup_override h).elim (hp' g hg d) (hq' g hg d)⟩
  locations ds hds := by
    rcases mem_join hds with hmem | hmem | ⟨p', q', -, -, hjoin⟩
    · exact hp.locations ds hmem
    · exact hq.locations ds hmem
    · cases hjoin
  servers es ds hes hds := by
    rcases mem_join hes with hmem | hmem | ⟨p', q', hd, hd', hjoin⟩
    · exact hp.servers es ds hmem hds
    · exact hq.servers es ds hmem hds
    · obtain rfl := Data.map.inj hjoin
      exact (Entries.lookup_override hds).elim (hp.servers p' ds hd) (hq.servers q' ds hd')

end Patch

theorem Site.patched_join (s : Site) {p q : Patch} (hp : p.Typed) (hq : q.Typed) :
    s.patched (p.join q) = (s.patched p).updateWith Data.patch q := by
  refine (Entries.updateWith_updateWith fun e he d d' hd hd' => ?_).symm
  obtain ⟨f, hf, hname⟩ := List.mem_map.1 (s.keys_toEntries ▸ List.mem_map_of_mem he : e.1 ∈ fields.map Field.name)
  have htakes := hp.values _ (hp.mem_of_lookup hd) f hf hname
  have htakes' := hq.values _ (hq.mem_of_lookup hd') f hf hname
  rcases takes_cases hf htakes with ⟨gs, p', hshape, rfl, -⟩ | ⟨hmap, -⟩
  · -- the field is a section, and all three values are maps
    rw [hshape] at htakes'
    obtain ⟨q', rfl, -⟩ := htakes'
    obtain ⟨old, hold⟩ := lookup_section (mem_sections_of_record hf hshape) s
    rw [hname, s.lookup_of_mem he, Option.some.injEq] at hold
    rw [hold]
    exact congrArg Data.map (Entries.update_update old p' q')
  · rcases takes_cases hf htakes' with ⟨gs, q', hshape, rfl, -⟩ | ⟨hmap', -⟩
    · rw [hshape] at htakes
      obtain ⟨p', hp', -⟩ := htakes
      exact absurd hp' (hmap p')
    · have hjoin : Patch.joinValues d d' = d' := by
        unfold Patch.joinValues
        split
        · exact absurd rfl (hmap _)
        · rfl
      rw [hjoin, Data.patch_of_ne_map hmap', Data.patch_of_ne_map hmap']

end SiteConf
