import SiteConf.Proofs.Described
import SiteConf.Site.Amend

/-!
# Sites under edit

A site is found again in the part that it is as one under edit (`Part.site?_ofSite`). The part has the data of the
site (`Part.toData_ofSite`), which is read with the values of its fields taken as they are (`Site.fill_below`), and
every part is like itself.
-/

namespace SiteConf
open Codec

/-! ### The data of parts -/

namespace Entries

theorem insert_of_lookup {k : String} {d : Data} {es : Entries} (h : es.lookup k = some d) : insert k d es = es := by
  induction es with
  | nil => cases h
  | cons e es ih =>
    obtain ⟨k', d'⟩ := e
    rw [insert]
    by_cases hk : k' = k
    · subst hk
      rw [List.lookup_cons_self, Option.some.injEq] at h
      rw [if_pos rfl, h]
    · rw [List.lookup_cons, beq_eq_false_iff_ne.2 (Ne.symm hk)] at h
      rw [if_neg hk, ih h]

end Entries

namespace Part

mutual
theorem toData_ofData : ∀ d : Data, (ofData d).toData = d
  | .list ds => congrArg Data.list (itemsData_ofItems ds)
  | .map es => congrArg Data.map (fieldsData_ofEntries es)
  | .null => rfl
  | .bool _ => rfl
  | .int _ => rfl
  | .float _ => rfl
  | .text _ => rfl

theorem itemsData_ofItems : ∀ ds : List Data, itemsData (ofItems ds) = ds
  | [] => rfl
  | d :: ds => congrArg₂ List.cons (toData_ofData d) (itemsData_ofItems ds)

theorem fieldsData_ofEntries : ∀ es : List (String × Data), fieldsData (ofEntries es) = es
  | [] => rfl
  | (k, d) :: es => congrArg₂ List.cons (congrArg (Prod.mk k) (toData_ofData d)) (fieldsData_ofEntries es)
end

mutual
theorem alike_self : ∀ p : Part, p.alike p = true
  | .single _ => rfl
  | .keyword _ _ => by simp [alike]
  | .list ps => by simp [alike, alikeItems_self ps]
  | .map es => by simp [alike, alikeFields_self es]
  | .record _ fs => by simp [alike, alikeFields_self fs]

theorem alikeItems_self : ∀ ps : List Part, alikeItems ps ps = true
  | [] => rfl
  | p :: ps => by simp [alikeItems, alike_self p, alikeItems_self ps]

theorem alikeFields_self : ∀ fs : List (String × Part), alikeFields fs fs = true
  | [] => rfl
  | (_, p) :: fs => by simp [alikeFields, alike_self p, alikeFields_self fs]
end

theorem fieldsData_put (name : String) (p : Part) (fs : Fields) :
    fieldsData (fs.put name p) = Entries.insert name p.toData (fieldsData fs) := by
  induction fs with
  | nil => rfl
  | cons f fs ih =>
    obtain ⟨k, q⟩ := f
    rw [Fields.put, fieldsData, Entries.insert]
    split_ifs with hk
    · rw [fieldsData, hk]
    · rw [fieldsData, ih]

theorem fieldsData_put_of_lookup {name : String} {p : Part} {fs : Fields}
    (h : List.lookup name (fieldsData fs) = some p.toData) : fieldsData (fs.put name p) = fieldsData fs := by
  rw [fieldsData_put, Entries.insert_of_lookup h]

theorem itemsData_map {α : Type} (f : α → Part) (as : List α) :
    itemsData (as.map f) = as.map fun a => (f a).toData := by
  induction as with
  | nil => rfl
  | cons a as ih => rw [List.map_cons, itemsData, ih, List.map_cons]

theorem fieldsData_foldl_put {fs es : Fields} (h : ∀ e ∈ es, List.lookup e.1 (fieldsData fs) = some e.2.toData) :
    fieldsData (es.foldl (fun (fs : Fields) e => fs.put e.1 e.2) fs) = fieldsData fs := by
  induction es generalizing fs with
  | nil => rfl
  | cons e es ih =>
    have hput := fieldsData_put_of_lookup (h e List.mem_cons_self)
    rw [List.foldl_cons, ih, hput]
    rw [hput]
    exact fun e' he' => h e' (List.mem_cons_of_mem _ he')

/-- A record whose marked fields hold the data that they had. -/
theorem toData_marked (name : String) (es : Entries) (marked : Fields)
    (h : ∀ e ∈ marked, es.lookup e.1 = some e.2.toData) :
    (record name (marked.foldl (fun (fs : Fields) e => fs.put e.1 e.2) (ofEntries es))).toData = .map es := by
  rw [toData, fieldsData_foldl_put] <;> rw [fieldsData_ofEntries]
  exact h

theorem toData_ofSsl (s : Ssl) : (ofSsl s).toData = .map s.toEntries :=
  toData_marked Ssl.record s.toEntries [("preset", ofKeyword s.preset)] (List.forall_mem_singleton.2 rfl)

theorem toData_ofReverseProxy (p : ReverseProxy) : (ofReverseProxy p).toData = .map p.toEntries := by
  refine toData_marked ReverseProxy.record p.toEntries [("custom_headers", .list (p.customHeaders.map ofHeader))]
    (List.forall_mem_singleton.2 ?_)
  rw [toData, itemsData_map]
  rfl

theorem toData_ofSecurity (s : Security) : (ofSecurity s).toData = .map s.toEntries :=
  toData_marked Security.record s.toEntries [] (List.forall_mem_nil _)

theorem toData_ofPerformance (p : Performance) : (ofPerformance p).toData = .map p.toEntries :=
  toData_marked Performance.record p.toEntries [("client_max_body_unit", ofKeyword p.clientMaxBodyUnit)]
    (List.forall_mem_singleton.2 rfl)

theorem toData_ofLogging (l : Logging) : (ofLogging l).toData = .map l.toEntries :=
  toData_marked Logging.record l.toEntries [("error_log_level", ofKeyword l.errorLogLevel)]
    (List.forall_mem_singleton.2 rfl)

theorem toData_ofUpstream (u : Upstream) : (ofUpstream u).toData = .map u.toEntries := by
  refine toData_marked Upstream.record u.toEntries
    [("method", ofKeyword u.method), ("servers", .list (u.servers.map ofPoolMember))] ?_
  simp only [List.forall_mem_cons, toData, itemsData_map]
  exact ⟨rfl, rfl, List.forall_mem_nil _⟩

theorem toData_ofLocation (l : Location) : (ofLocation l).toData = .map l.toEntries := by
  refine toData_marked Location.record l.toEntries [("match_type", ofKeyword l.matchType), ("type", ofKeyword l.kind),
    ("proxy_headers", .list (l.proxyHeaders.map ofHeader))] ?_
  simp only [List.forall_mem_cons, toData, itemsData_map]
  exact ⟨rfl, rfl, rfl, List.forall_mem_nil _⟩

theorem toData_ofSite (s : Site) : (ofSite s).toData = s.toData := by
  refine toData_marked Site.record s.toEntries [("ssl", ofSsl s.ssl), ("reverse_proxy", ofReverseProxy s.reverseProxy),
    ("security", ofSecurity s.security), ("performance", ofPerformance s.performance),
    ("logging", ofLogging s.logging), ("upstream", ofUpstream s.upstream),
    ("locations", .list (s.locations.map ofLocation))] ?_
  simp only [List.forall_mem_cons, toData_ofSsl, toData_ofReverseProxy, toData_ofSecurity, toData_ofPerformance,
    toData_ofLogging, toData_ofUpstream, toData, itemsData_map, toData_ofLocation]
  exact ⟨rfl, rfl, rfl, rfl, rfl, rfl, rfl, List.forall_mem_nil _⟩

end Part

/-! ### Reading without checks -/

/-- What the first makes, the second makes too. -/
def Below {α : Type} (x y : Except Fault α) : Prop := ∀ a, x = .ok a → y = .ok a

namespace Below
variable {α β : Type} {x y : Except Fault α}

theorem refl : Below x x := fun _ h => h

theorem bind {f g : α → Except Fault β} (h : Below x y) (hf : ∀ a, Below (f a) (g a)) : Below (x >>= f) (y >>= g) := by
  intro b hb
  obtain ⟨a, ha, hfa⟩ := bind_eq_ok_iff.1 hb
  exact bind_eq_ok_iff.2 ⟨a, h a ha, hf a b hfa⟩

theorem require {b : Bool} {f : Fault} : Below (require .nothing b f) (require .fields b f) :=
  fun _ _ => require_fields b f

theorem field {path name : String} {es : Entries} {reader reader' : Reader α} {base : α}
    (h : ∀ path d, Below (reader path d) (reader' path d)) :
    Below (field path es name reader base) (field path es name reader' base) := by
  unfold Codec.field
  cases es.lookup name with
  | none => exact refl
  | some d => exact h _ d

theorem list {reader reader' : Reader α} (h : ∀ path d, Below (reader path d) (reader' path d)) (path : String)
    (d : Data) : Below (asList reader path d) (asList reader' path d) := by
  have hitems : ∀ i ds, Below (readItems reader path i ds) (readItems reader' path i ds) := by
    intro i ds
    induction ds generalizing i with
    | nil => exact refl
    | cons d ds ih => exact (h _ d).bind fun _ => (ih (i + 1)).bind fun _ => refl
  cases d with
  | list ds => exact hitems 0 ds
  | _ => exact refl

end Below

theorem PoolMember.read_below (path : String) (d : Data) :
    Below (PoolMember.read .nothing path d) (PoolMember.read .fields path d) := by
  unfold PoolMember.read
  iterate 3 refine .bind .refl fun _ => ?_
  exact .bind .require fun _ => .refl

theorem Location.read_below (path : String) (d : Data) :
    Below (Location.read .nothing path d) (Location.read .fields path d) := by
  unfold Location.read
  iterate 18 refine .bind .refl fun _ => ?_
  refine .bind .require fun _ => ?_
  iterate 2 refine .bind .refl fun _ => ?_
  exact .bind .require fun _ => .refl

theorem Performance.fill_below (path : String) (base : Performance) (es : Entries) :
    Below (Performance.fill .nothing path base es) (Performance.fill .fields path base es) := by
  unfold Performance.fill
  iterate 13 refine .bind .refl fun _ => ?_
  exact .bind .require fun _ => .bind .require fun _ => .refl

theorem Upstream.fill_below (path : String) (base : Upstream) (es : Entries) :
    Below (Upstream.fill .nothing path base es) (Upstream.fill .fields path base es) := by
  unfold Upstream.fill
  iterate 3 refine .bind .refl fun _ => ?_
  exact .bind (.field (Below.list PoolMember.read_below)) fun _ => .refl

theorem Site.fill_below (path : String) (base : Site) (es : Entries) :
    Below (Site.fill .nothing path base es) (Site.fill .fields path base es) := by
  unfold Site.fill
  iterate 8 refine .bind .refl fun _ => ?_
  refine .bind (.field fun path d => .bind .refl fun es => Performance.fill_below path base.performance es) fun _ => ?_
  refine .bind .refl fun _ => ?_
  refine .bind (.field fun path d => .bind .refl fun es => Upstream.fill_below path base.upstream es) fun _ => ?_
  refine .bind (.field (Below.list Location.read_below)) fun _ => ?_
  refine .bind .refl fun _ => ?_
  exact .bind .require fun _ => .refl

theorem Site.ofTrustedData_toData {s : Site} (hs : s.Valid) : ofTrustedData s.toData = .ok s :=
  fill_below record {} s.toEntries s (ofData_toData hs)

theorem Part.site?_ofSite {s : Site} (hs : s.Valid) : (ofSite s).site? = some s := by
  rw [site?, toData_ofSite, Site.ofTrustedData_toData hs]
  exact if_pos (alike_self _)

end SiteConf
