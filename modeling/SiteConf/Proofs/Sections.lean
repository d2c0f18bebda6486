import SiteConf.Proofs.Patched

/-!
# Sections of sites

A section that is filled from a typed patch over an old one is the section of the patched data, and only its own
conditions and a text that is no keyword can stop it. `Site.Section` says this of one section, with where it stands
in a site; every name in `Site.sections` has one (`Site.exists_section`).

The old record only stands in for what the patch does not name: filling over it is filling over the default from the
patched data (`Ssl.fill_update` and its like), which is faithful to the table of its fields.
-/

namespace SiteConf
open Codec

/-! ### Data that is written out in full -/

namespace Shape
variable {shape : Shape} {fields : List (Field Shape)} {f : Data → Data → Data} {old es : Entries}

theorem complete_of_loose {d : Data} (h : shape.loose.Gives d d) : shape.complete d = d := by
  cases shape with
  | word words => rw [complete] <;> simp
  | _ => exact h.2

/-- A record that is written out in full stays so if the new values are. -/
theorem complete_updateWith (hn : (fields.map Field.name).Nodup)
    (hold : (record fields).complete (.map old) = .map old)
    (hes : ∀ field ∈ fields, ∀ d d', old.lookup field.name = some d → field.shape.complete d = d →
      es.lookup field.name = some d' → field.shape.complete (f d d') = f d d') :
    (record fields).complete (.map (old.updateWith f es)) = .map (old.updateWith f es) := by
  rw [complete, Data.map.injEq, completeFields_eq] at hold ⊢
  have hlookup : ∀ field ∈ fields, old.lookup field.name = some (field.value old) := by
    intro field hfield
    have hkeys : (old.map (·.1)).Nodup := by
      rw [← hold, List.map_map]
      exact hn
    have hmem : (field.name, field.value old) ∈ fields.map fun f => (f.name, f.value old) := List.mem_map_of_mem hfield
    rw [hold] at hmem
    exact (lookup_eq_some_iff_mem hkeys).2 hmem
  -- the entries are the fields of the record, each with its value
  conv_rhs => rw [← hold, Entries.updateWith, List.map_map]
  refine List.map_congr_left fun field hfield => Prod.ext rfl ?_
  have hd := hlookup field hfield
  have hcomplete : field.value old = field.shape.complete (field.value old) := by
    conv_lhs => rw [Field.value, hd]
  show field.value (old.updateWith f es) = ((es.lookup field.name).map (f (field.value old))).getD (field.value old)
  rw [Field.value, Entries.lookup_updateWith, hd]
  cases hd' : es.lookup field.name with
  | none => exact hcomplete.symm
  | some d' => exact hes field hfield _ d' hd hcomplete.symm hd'

end Shape

namespace Faithful
variable {α : Type} {reader : Reader α} {shape : Shape} {enc : α → Data} {ok : α → Prop} {d : Data}

theorem eq_ok_iff_eq (h : Faithful reader shape enc ok) (hd : shape.complete d = d) (path : String) (a : α) :
    reader path d = .ok a ↔ d = enc a ∧ ok a := by
  rw [h.reads]
  constructor
  · rintro ⟨⟨-, hcomplete⟩, hok⟩
    exact ⟨hd.symm.trans hcomplete, hok⟩
  · rintro ⟨rfl, hok⟩
    exact (h.reads path _ a).1 (h.back path a hok)

theorem complete_enc (h : Faithful reader shape enc ok) {a : α} (ha : ok a) : shape.complete (enc a) = enc a :=
  ((h.reads "" _ a).1 (h.back "" a ha)).1.2

theorem exists_eq_enc (h : Faithful reader shape enc ok) (hd : shape.Gives d d) : ∃ a, d = enc a := by
  obtain ⟨a, ha⟩ := h.total d hd.1
  exact ⟨a, hd.2.symm.trans ha.2⟩

end Faithful

/-! ### Filling over an old record -/

theorem bind_congr_of {ε α β : Type} {x y : Except ε α} {f g : α → Except ε β} (h : x = y) (hf : ∀ a, f a = g a) :
    x >>= f = y >>= g := by
  rw [h, funext hf]

section
variable {α : Type} {reader reader' : Reader α} {name path : String} {old es : Entries} {d : Data}
  {f : Data → Data → Data} {base default : α}

theorem field_congr (h : ∀ d, es.lookup name = some d → ∀ path, reader path d = reader' path d) :
    field path es name reader base = field path es name reader' base := by
  unfold field
  cases hd : es.lookup name with
  | none => rfl
  | some d => exact h d hd _

theorem field_updateWith (hold : old.lookup name = some d) (hread : ∀ path, reader path d = .ok base)
    (hes : ∀ d', es.lookup name = some d' → ∀ path, reader path (f d d') = reader' path d') :
    field path (old.updateWith f es) name reader default = field path es name reader' base := by
  unfold field
  rw [Entries.lookup_updateWith, hold]
  cases hd : es.lookup name with
  | none => exact hread _
  | some d' => exact hes d' hd _

theorem field_updateWith_of_none (hold : old.lookup name = some d) (hread : ∀ path, reader path d = .ok base)
    (hes : es.lookup name = none) :
    field path (old.updateWith f es) name reader default = field path es name reader' base :=
  field_updateWith hold hread fun _ hd => nomatch hes.symm.trans hd

theorem field_update (hold : old.lookup name = some d) (hread : ∀ path, reader path d = .ok base) :
    field path (old.update es) name reader default = field path es name reader base :=
  field_updateWith hold hread fun _ _ _ => rfl

end

theorem Ssl.fill_update (path : String) (base : Ssl) (es : Entries) :
    Ssl.fill path {} (base.toEntries.update es) = Ssl.fill path base es := by
  unfold Ssl.fill
  iterate 3 refine bind_congr_of (field_update rfl fun _ => rfl) fun _ => ?_
  refine bind_congr_of (field_update rfl fun _ => asTexts_texts _ _) fun _ => ?_
  iterate 5 refine bind_congr_of (field_update rfl fun _ => rfl) fun _ => ?_
  rfl

theorem ReverseProxy.fill_update (path : String) (base : ReverseProxy) (es : Entries) :
    ReverseProxy.fill path {} (base.toEntries.update es) = ReverseProxy.fill path base es := by
  unfold ReverseProxy.fill
  iterate 4 refine bind_congr_of (field_update rfl fun _ => rfl) fun _ => ?_
  refine bind_congr_of (field_update rfl fun _ => readItems_map Header.read_toEntries _ _ _) fun _ => ?_
  rfl

theorem Security.fill_update (path : String) (base : Security) (es : Entries) :
    Security.fill path {} (base.toEntries.update es) = Security.fill path base es := by
  unfold Security.fill
  iterate 5 refine bind_congr_of (field_update rfl fun _ => rfl) fun _ => ?_
  iterate 2 refine bind_congr_of (field_update rfl fun _ => asTexts_texts _ _) fun _ => ?_
  iterate 3 refine bind_congr_of (field_update rfl fun _ => rfl) fun _ => ?_
  rfl

theorem Performance.fill_update (path : String) {base : Performance} (h : (base.assetCacheExpiry.map (·.1)).Nodup)
    (es : Entries) :
    Performance.fill .nothing path {} (base.toEntries.update es) = Performance.fill .nothing path base es := by
  unfold Performance.fill
  refine bind_congr_of (field_update rfl fun _ => rfl) fun _ => ?_
  refine bind_congr_of (field_update rfl fun _ => asTexts_texts _ _) fun _ => ?_
  refine bind_congr_of (field_update rfl fun _ => rfl) fun _ => ?_
  refine bind_congr_of (field_update rfl fun _ => asTexts_texts _ _) fun _ => ?_
  iterate 2 refine bind_congr_of (field_update rfl fun _ => rfl) fun _ => ?_
  refine bind_congr_of (field_update rfl fun _ => asTextMap_map _ h) fun _ => ?_
  iterate 5 refine bind_congr_of (field_update rfl fun _ => rfl) fun _ => ?_
  rfl

theorem Logging.fill_update (path : String) (base : Logging) (es : Entries) :
    Logging.fill path {} (base.toEntries.update es) = Logging.fill path base es := by
  unfold Logging.fill
  iterate 5 refine bind_congr_of (field_update rfl fun _ => rfl) fun _ => ?_
  rfl

theorem Upstream.fill_update (path : String) {base : Upstream} (h : ∀ m ∈ base.servers, m.Valid) (es : Entries) :
    Upstream.fill .nothing path {} (base.toEntries.update es) = Upstream.fill .nothing path base es := by
  unfold Upstream.fill
  iterate 3 refine bind_congr_of (field_update rfl fun _ => rfl) fun _ => ?_
  refine bind_congr_of (field_update rfl fun _ => readItems_map_of PoolMember.read_toEntries _ _ h) fun _ => ?_
  rfl

/-- A section that is filled from a typed patch is that of the patched data, if it meets the conditions. -/
theorem Faithful.fill_eq_ok_iff {α : Type} {fill : String → α → Entries → Except Fault α} {fields : List (Field Shape)}
    {toEntries : α → Entries} {ok : α → Prop} {base₀ base a : α} {es : Entries} {path : String}
    (h : Faithful (Site.readSection (fill · base₀)) (.record fields) (fun a => .map (toEntries a)) ok)
    (hn : (fields.map Field.name).Nodup)
    (hupdate : fill path base₀ ((toEntries base).update es) = fill path base es)
    (hbase : ok base) (hes : es.Typed fields) :
    fill path base es = .ok a ↔ (toEntries base).update es = toEntries a ∧ ok a := by
  have hcomplete : (Shape.record fields).complete (.map ((toEntries base).update es)) =
      .map ((toEntries base).update es) :=
    Shape.complete_updateWith hn (h.complete_enc hbase) fun field hfield _ d' _ _ hd' =>
      Shape.complete_of_loose (hes field hfield d' hd')
  have hread := h.eq_ok_iff_eq hcomplete path a
  rw [Data.map.injEq] at hread
  rw [← hupdate]
  exact hread

/-! ### The members of a pool -/

theorem PoolMember.read_trusted (path : String) (m : PoolMember) :
    PoolMember.read .fields path (.map m.toEntries) = .ok m := by
  show (do
    require .fields (1 ≤ m.weight) .poolMemberWeight
    pure m : Except Fault PoolMember) = .ok m
  rw [require_fields]
  rfl

theorem Upstream.servers_eq {es : Entries} (hes : es.Typed Upstream.fields) {d : Data}
    (hd : es.lookup "servers" = some d) : ∃ ms : List PoolMember, d = .list (ms.map fun m => .map m.toEntries) :=
  PoolMember.faithful.list.exists_eq_enc
    (hes ⟨"servers", some (.list []), .list (.record PoolMember.fields)⟩ (by simp [Upstream.fields]) d hd)

theorem Upstream.fill_trusted {es : Entries} (hes : es.Typed Upstream.fields)
    (hservers : ∀ ds, es.lookup "servers" = some (.list ds) → ∀ m : PoolMember, .map m.toEntries ∈ ds → m.Valid)
    (path : String) (base : Upstream) : Upstream.fill .fields path base es = Upstream.fill .nothing path base es := by
  unfold Upstream.fill
  iterate 3 refine bind_congr_of rfl fun _ => ?_
  refine bind_congr_of (field_congr fun d hd path => ?_) fun _ => rfl
  obtain ⟨ms, rfl⟩ := servers_eq hes hd
  have hvalid : ∀ m ∈ ms, m.Valid := fun m hm => hservers _ hd m (List.mem_map_of_mem hm)
  exact (readItems_map PoolMember.read_trusted path 0 ms).trans
    (readItems_map_of PoolMember.read_toEntries path 0 hvalid).symm

/-! ### What can stop a section -/

/-- A name or a value of the right kind is refused. -/
def Fault.isRefusal : Fault → Bool
  | unknownField .. | notMember .. | unknownAssets .. | negativeBodySize | listenPort .. => true
  | _ => false

theorem Fault.isKind_of_isRefusal {f : Fault} (h : f.isRefusal = true) : f.isKind = false := by
  cases f <;> first | rfl | cases h

/-- All that can stop the computation is a refusal. -/
def Refuses {α : Type} (x : Except Fault α) : Prop := ∀ f, x = .error f → f.isRefusal = true

/-- Readers that read all data of a shape. -/
class Reader.Total {α : Type} (reader : Reader α) (shape : outParam Shape) : Prop where
  exists_ok : ∀ path d, shape.fits d = true → ∃ a, reader path d = .ok a

theorem Faithful.reader_total {α : Type} {reader : Reader α} {shape : Shape} {enc : α → Data} {ok : α → Prop}
    (h : Faithful reader shape enc ok) (hok : ∀ a, ok a) : Reader.Total reader shape where
  exists_ok path d hd := by
    obtain ⟨a, ha⟩ := h.total d hd
    exact ⟨a, (h.reads path d a).2 ⟨ha, hok a⟩⟩

instance : Reader.Total asBool .bool := Faithful.bool.reader_total fun _ => trivial

instance : Reader.Total asInt .int := Faithful.int.reader_total fun _ => trivial

instance : Reader.Total asText .text := Faithful.text.reader_total fun _ => trivial

instance : Reader.Total asTexts (.list .text) := Faithful.texts.reader_total fun _ => trivial

instance : Reader.Total (asList Header.read) (.list (.record Header.fields)) :=
  Header.faithful.list.reader_total fun _ _ _ => trivial

/-- Of several values of a key the reader takes the first. -/
instance : Reader.Total asTextMap (.map .text) where
  exists_ok path d hd := by
    cases d with
    | map es =>
      obtain ⟨ss, rfl⟩ := Faithful.fits_map_text hd
      exact ⟨firstOfEach ss, by rw [asTextMap, textEntries?_map]⟩
    | _ => simp [Shape.fits] at hd

namespace Refuses
variable {α β : Type} {path name : String} {es : Entries} {reader : Reader α} {base : α}

theorem ok (a : α) : Refuses (.ok a) := nofun

theorem error {f : Fault} (h : f.isRefusal = true) : Refuses (.error f : Except Fault α) := by
  rintro _ ⟨⟩
  exact h

theorem bind {x : Except Fault α} {f : α → Except Fault β} (hx : Refuses x) (hf : ∀ a, Refuses (f a)) :
    Refuses (x >>= f) := by
  cases x with
  | error e =>
    rintro _ ⟨⟩
    exact hx e rfl
  | ok a => exact hf a

theorem require {trust : Trust} {b : Bool} {f : Fault} (h : f.isRefusal = true) : Refuses (require trust b f) := by
  unfold Codec.require
  split_ifs
  · exact ok ()
  · exact error h

theorem member [Keyword α] (w : String) : Refuses (member w : Except Fault α) := by
  unfold Codec.member
  split
  · exact ok _
  · exact error rfl

theorem foldlM {f : β → α → Except Fault β} {as : List α} (h : ∀ a ∈ as, ∀ b, Refuses (f b a)) (b : β) :
    Refuses (as.foldlM f b) := by
  induction as generalizing b with
  | nil => exact ok b
  | cons a as ih =>
    rw [List.foldlM_cons]
    exact (h a List.mem_cons_self b).bind fun b' => ih (fun a ha => h a (List.mem_cons_of_mem _ ha)) b'

theorem field_of (h : ∀ d, es.lookup name = some d → ∀ path, ∃ a, reader path d = .ok a) :
    Refuses (field path es name reader base) := by
  unfold Codec.field
  cases hd : es.lookup name with
  | none => exact ok base
  | some d =>
    obtain ⟨a, ha⟩ := h d hd (path ++ "." ++ name)
    show Refuses (reader _ d)
    rw [ha]
    exact ok a

theorem field {fields : List (Field Shape)} {shape : Shape} [htotal : Reader.Total reader shape]
    (hes : es.Typed fields)
    (hf : (fields.find? (·.name == name)).map (fun f => f.shape.loose) = some shape) :
    Refuses (field path es name reader base) := by
  obtain ⟨f, hfind, rfl⟩ := Option.map_eq_some_iff.1 hf
  have hname : f.name = name := by simpa using List.find?_some hfind
  refine field_of fun d hd path => htotal.exists_ok path d ?_
  exact (hes f (List.mem_of_find?_eq_some hfind) d (hname ▸ hd)).1

end Refuses

section
variable {path : String} {es : Entries}

theorem Ssl.fill_refuses (hes : es.Typed Ssl.fields) (base : Ssl) : Refuses (Ssl.fill path base es) := by
  unfold Ssl.fill
  iterate 9 refine .bind (.field hes rfl) fun _ => ?_
  exact .bind (.member _) fun _ => .ok _

theorem ReverseProxy.fill_refuses (hes : es.Typed ReverseProxy.fields) (base : ReverseProxy) :
    Refuses (ReverseProxy.fill path base es) := by
  unfold ReverseProxy.fill
  iterate 5 refine .bind (.field hes rfl) fun _ => ?_
  exact .ok _

theorem Security.fill_refuses (hes : es.Typed Security.fields) (base : Security) :
    Refuses (Security.fill path base es) := by
  unfold Security.fill
  iterate 10 refine .bind (.field hes rfl) fun _ => ?_
  exact .ok _

theorem Performance.fill_refuses (hes : es.Typed Performance.fields) (base : Performance) :
    Refuses (Performance.fill .nothing path base es) := by
  unfold Performance.fill
  iterate 12 refine .bind (.field hes rfl) fun _ => ?_
  refine .bind (.member _) fun _ => ?_
  iterate 2 refine .bind (.require rfl) fun _ => ?_
  exact .ok _

theorem Logging.fill_refuses (hes : es.Typed Logging.fields) (base : Logging) :
    Refuses (Logging.fill path base es) := by
  unfold Logging.fill
  iterate 5 refine .bind (.field hes rfl) fun _ => ?_
  exact .bind (.member _) fun _ => .ok _

theorem Upstream.fill_refuses (hes : es.Typed Upstream.fields) (base : Upstream) :
    Refuses (Upstream.fill .fields path base es) := by
  unfold Upstream.fill
  iterate 3 refine .bind (.field hes rfl) fun _ => ?_
  refine .bind (.field_of fun d hd path => ?_) fun _ => .bind (.member _) fun _ => .ok _
  obtain ⟨ms, rfl⟩ := servers_eq hes hd
  exact ⟨ms, readItems_map PoolMember.read_trusted path 0 ms⟩

end

/-! ### Sections -/

namespace Site

/-- A section of sites, by its name: where it stands in a site, how it is written, and what a patch makes of it. -/
structure Section (name : String) (α : Type) where
  fields : List (Field Shape)
  record : String
  get : Site → α
  set : Site → α → Site
  toEntries : α → Entries
  fill : String → α → Entries → Except Fault α
  /-- What holds of the section in a valid site. -/
  ok : α → Prop
  mem : ∃ default, Field.mk name default (.record fields) ∈ Site.fields := by simp [Site.fields, Option.exists]
  nodup : (fields.map Field.name).Nodup := by decide
  keys : ∀ a, (toEntries a).map (·.1) = fields.map Field.name := by intros; rfl
  lookup : ∀ s : Site, s.toEntries.lookup name = some (.map (toEntries (get s))) := by intros; rfl
  toEntries_set : ∀ s a, (set s a).toEntries = s.toEntries.update [(name, .map (toEntries a))] := by intros; rfl
  valid_get : ∀ {s}, s.Valid → ok (get s)
  valid_set : ∀ {s a}, s.Valid → ok a → (set s a).Valid
  run : ∀ (s : Site) p, s.mergeEntry (name, .map p) =
    mergeSection record (toEntries (get s)) (fill · (get s)) p >>= fun a => pure (set s a) := by intros; rfl
  fill_eq_ok_iff : ∀ {s path a} {p : Entries}, s.Valid → Patch.Typed [(name, .map p)] → p.Typed fields →
    (fill path (get s) p = .ok a ↔ (toEntries (get s)).update p = toEntries a ∧ ok a)
  fill_refuses : ∀ {path} {p : Entries}, p.Typed fields → ∀ base, Refuses (fill path base p)

def sslSection : Section "ssl" Ssl where
  fields := Ssl.fields
  record := Ssl.record
  get := ssl
  set s ssl := { s with ssl }
  toEntries := Ssl.toEntries
  fill := Ssl.fill
  ok _ := True
  valid_get _ := trivial
  valid_set hs _ := ⟨hs.listenPort, hs.performance, hs.servers, hs.locations⟩
  fill_eq_ok_iff _ _ := Ssl.faithful.fill_eq_ok_iff (by decide) (Ssl.fill_update _ _ _) trivial
  fill_refuses := Ssl.fill_refuses

def reverseProxySection : Section "reverse_proxy" ReverseProxy where
  fields := ReverseProxy.fields
  record := ReverseProxy.record
  get := reverseProxy
  set s reverseProxy := { s with reverseProxy }
  toEntries := ReverseProxy.toEntries
  fill := ReverseProxy.fill
  ok _ := True
  valid_get _ := trivial
  valid_set hs _ := ⟨hs.listenPort, hs.performance, hs.servers, hs.locations⟩
  fill_eq_ok_iff _ _ := ReverseProxy.faithful.fill_eq_ok_iff (by decide) (ReverseProxy.fill_update _ _ _) trivial
  fill_refuses := ReverseProxy.fill_refuses

def securitySection : Section "security" Security where
  fields := Security.fields
  record := Security.record
  get := security
  set s security := { s with security }
  toEntries := Security.toEntries
  fill := Security.fill
  ok _ := True
  valid_get _ := trivial
  valid_set hs _ := ⟨hs.listenPort, hs.performance, hs.servers, hs.locations⟩
  fill_eq_ok_iff _ _ := Security.faithful.fill_eq_ok_iff (by decide) (Security.fill_update _ _ _) trivial
  fill_refuses := Security.fill_refuses

def performanceSection : Section "performance" Performance where
  fields := Performance.fields
  record := Performance.record
  get := performance
  set s performance := { s with performance }
  toEntries := Performance.toEntries
  fill := Performance.fill .nothing
  ok := Performance.Valid
  valid_get hs := hs.performance
  valid_set hs ha := ⟨hs.listenPort, ha, hs.servers, hs.locations⟩
  fill_eq_ok_iff hs _ := Performance.faithful.fill_eq_ok_iff (by decide)
    (Performance.fill_update _ hs.performance.1 _) hs.performance
  fill_refuses := Performance.fill_refuses

def loggingSection : Section "logging" Logging where
  fields := Logging.fields
  record := Logging.record
  get := logging
  set s logging := { s with logging }
  toEntries := Logging.toEntries
  fill := Logging.fill
  ok _ := True
  valid_get _ := trivial
  valid_set hs _ := ⟨hs.listenPort, hs.performance, hs.servers, hs.locations⟩
  fill_eq_ok_iff _ _ := Logging.faithful.fill_eq_ok_iff (by decide) (Logging.fill_update _ _ _) trivial
  fill_refuses := Logging.fill_refuses

/-- The members of its list are taken as they are, which are valid in a typed patch. -/
def upstreamSection : Section "upstream" Upstream where
  fields := Upstream.fields
  record := Upstream.record
  get := upstream
  set s upstream := { s with upstream }
  toEntries := Upstream.toEntries
  fill := Upstream.fill .fields
  ok u := ∀ m ∈ u.servers, m.Valid
  valid_get hs := hs.servers
  valid_set hs ha := ⟨hs.listenPort, hs.performance, ha, hs.locations⟩
  fill_eq_ok_iff hs hp htyped := by
    rw [Upstream.fill_trusted htyped fun ds => hp.servers _ ds (List.mem_singleton_self _)]
    exact Upstream.faithful.fill_eq_ok_iff (by decide) (Upstream.fill_update _ hs.servers _) hs.servers htyped
  fill_refuses := Upstream.fill_refuses

theorem exists_section {name : String} (h : name ∈ sections) : ∃ α : Type, Nonempty (Section name α) := by
  simp only [sections, List.mem_cons, List.not_mem_nil, or_false] at h
  rcases h with rfl | rfl | rfl | rfl | rfl | rfl
  exacts [⟨_, ⟨sslSection⟩⟩, ⟨_, ⟨reverseProxySection⟩⟩, ⟨_, ⟨securitySection⟩⟩, ⟨_, ⟨performanceSection⟩⟩,
    ⟨_, ⟨loggingSection⟩⟩, ⟨_, ⟨upstreamSection⟩⟩]

namespace Section
variable {name : String} {α : Type} (S : Section name α) {s t : Site} {q : Entries} {d : Data}

theorem exists_map (hp : Patch.Typed [(name, d)]) : ∃ q : Entries, d = .map q ∧ q.Typed S.fields := by
  obtain ⟨default, hmem⟩ := S.mem
  exact hp.of_section hmem

theorem known_iff : Patch.Known [(name, .map q)] ↔ ∀ e ∈ q, e.1 ∈ S.fields.map Field.name := by
  obtain ⟨default, hmem⟩ := S.mem
  unfold Patch.Known
  rw [List.forall_mem_singleton]
  constructor
  · rintro ⟨f, hf, hname, hknown⟩
    have heq := eq_of_mem_fields hf hmem hname
    exact hknown S.fields q (heq ▸ rfl) rfl
  · intro h
    refine ⟨_, hmem, rfl, fun fields p hfields hp => ?_⟩
    rw [← Shape.record.inj hfields, ← Data.map.inj hp]
    exact h

theorem toEntries_set_eq {a : α} (h : (S.toEntries (S.get s)).update q = S.toEntries a) :
    (S.set s a).toEntries = s.toEntries.updateWith Data.patch [(name, .map q)] := by
  rw [S.toEntries_set, ← h]
  refine List.map_congr_left fun e he => Prod.ext rfl ?_
  by_cases hname : e.1 = name
  · have hvalue := s.lookup_of_mem he
    rw [hname, S.lookup s] at hvalue
    rw [hname, ← Option.some.inj hvalue]
    simp [Data.patch]
  · simp [List.lookup_cons, beq_eq_false_iff_ne.2 hname]

end Section
end Site
end SiteConf
