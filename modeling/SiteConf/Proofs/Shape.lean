import SiteConf.Proofs.Encoded

/-!
# Shapes of data

A `Shape` is a table of what data may look like: the kinds of its values, the words that stand for a
keyword, the fields of its records with their defaults. `Shape.fits` says whether data has a shape.
`Shape.complete` writes the data out, with the default of every field that it does not name, and
`Shape.known` leaves out what the shape does not name.

`Faithful reader shape enc ok` says that a reader takes data for `a` just if the data fits the shape,
is `enc a` when it is written out, and `a` meets the conditions `ok`.

Main statements: the readers of single values are faithful, a list is read faithfully if its items
are (`Faithful.list`), and a field is read alike with what its shape does not name and without
(`field_known`).
-/

namespace SiteConf
open Codec

/-- A field of a record; its values have one of the shapes `σ`. It has to be named if it has no
default. -/
structure Field (σ : Type) where
  name : String
  default : Option Data
  shape : σ

inductive Shape where
  | bool
  | int
  | text
  | word (words : List String)
  | list (item : Shape)
  /-- Values under any keys. -/
  | map (item : Shape)
  | record (fields : List (Field Shape))

namespace Shape

mutual
/-- Every value has its kind, every word is one of its words, and the fields without a default are
named. -/
def fits : Shape → Data → Bool
  | bool, .bool _ => true
  | int, .int _ => true
  | text, .text _ => true
  | word words, .text s => words.contains s
  | list item, .list ds => ds.all fun d => item.fits d
  | map item, .map es => es.all fun e => item.fits e.2
  | record fields, .map es => fitsFields fields es
  | _, _ => false

def fitsFields : List (Field Shape) → Entries → Bool
  | [], _ => true
  | ⟨name, default, shape⟩ :: rest, es =>
    (match es.lookup name with
      | some d => shape.fits d
      | none => default.isSome) && fitsFields rest es
end

/-- The entries with the first value of each key. -/
def firstEntries : Entries → Entries
  | [] => []
  | (k, d) :: rest => (k, d) :: (firstEntries rest).filter (·.1 != k)

mutual
/-- The data with all fields of its records, in order: the named ones with their values, the others
with their defaults. -/
def complete : Shape → Data → Data
  | list item, .list ds => .list (ds.map fun d => item.complete d)
  | map item, .map es => .map (firstEntries (es.map fun e => (e.1, item.complete e.2)))
  | record fields, .map es => .map (completeFields fields es)
  | _, d => d

def completeFields : List (Field Shape) → Entries → Entries
  | [], _ => []
  | ⟨name, default, shape⟩ :: rest, es =>
    (name, match es.lookup name with
      | some d => shape.complete d
      | none => default.getD .null) :: completeFields rest es
end

mutual
/-- The data without what is no field of its records. -/
def known : Shape → Data → Data
  | list item, .list ds => .list (ds.map fun d => item.known d)
  | map item, .map es => .map (es.map fun e => (e.1, item.known e.2))
  | record fields, .map es => .map (knownFields fields es)
  | _, d => d

def knownFields : List (Field Shape) → Entries → Entries
  | [], _ => []
  | ⟨name, _, shape⟩ :: rest, es => match es.lookup name with
    | some d => (name, shape.known d) :: knownFields rest es
    | none => knownFields rest es
end

/-- One of the words that spell a member. -/
def keyword (α : Type) [Keyword α] : Shape := word ((Keyword.all : List α).map spell)

/-- The data fits the shape and is `v` when it is written out. -/
def Gives (shape : Shape) (d v : Data) : Prop := shape.fits d = true ∧ shape.complete d = v

end Shape

namespace Field
open Shape

def fits (f : Field Shape) (es : Entries) : Bool :=
  match es.lookup f.name with
  | some d => f.shape.fits d
  | none => f.default.isSome

/-- The value that the entries give a field. -/
def value (f : Field Shape) (es : Entries) : Data :=
  match es.lookup f.name with
  | some d => f.shape.complete d
  | none => f.default.getD .null

def Gives (f : Field Shape) (es : Entries) (v : Data) : Prop := f.fits es = true ∧ f.value es = v

end Field

namespace Shape
variable {shape item : Shape} {fields : List (Field Shape)} {d v : Data} {es vs : Entries} {ds us : List Data}

theorem fitsFields_eq (fields : List (Field Shape)) (es : Entries) :
    fitsFields fields es = fields.all (·.fits es) := by
  induction fields with
  | nil => simp [fitsFields]
  | cons f fields ih => rw [fitsFields, ih, List.all_cons]; rfl

theorem completeFields_eq (fields : List (Field Shape)) (es : Entries) :
    completeFields fields es = fields.map fun f => (f.name, f.value es) := by
  induction fields with
  | nil => simp [completeFields]
  | cons f fields ih => rw [completeFields, ih, List.map_cons]; rfl

theorem fits_record : (record fields).fits (.map es) = true ↔ ∀ f ∈ fields, f.fits es = true := by
  rw [fits, fitsFields_eq, List.all_eq_true]

theorem gives_record : (record fields).Gives (.map es) (.map vs) ↔
    List.Forall₂ (fun f v => f.Gives es v.2 ∧ f.name = v.1) fields vs := by
  have hmap : completeFields fields es = vs ↔
      List.Forall₂ (fun f v => f.value es = v.2 ∧ f.name = v.1) fields vs := by
    rw [completeFields_eq, ← List.forall₂_eq_eq_eq, List.forall₂_map_left_iff]
    simp only [Prod.ext_iff, and_comm]
  rw [Gives, fits_record, complete, Data.map.injEq, hmap, ← List.forall₂_and_left]
  simp only [Field.Gives, and_assoc]

theorem gives_list : (list item).Gives (.list ds) (.list us) ↔ List.Forall₂ item.Gives ds us := by
  have hmap : ds.map (fun d => item.complete d) = us ↔ List.Forall₂ (fun d u => item.complete d = u) ds us := by
    rw [← List.forall₂_eq_eq_eq, List.forall₂_map_left_iff]
  rw [Gives, fits, complete, Data.list.injEq, hmap, List.all_eq_true, ← List.forall₂_and_left]
  rfl

/-! ### What a shape does not name -/

theorem lookup_knownFields_of_none {name : String} (h : es.lookup name = none) (fields : List (Field Shape)) :
    (knownFields fields es).lookup name = none := by
  induction fields with
  | nil => rfl
  | cons f fields ih =>
    rw [knownFields]
    cases hf : es.lookup f.name with
    | none => exact ih
    | some d =>
      have hne : name ≠ f.name := by rintro rfl; simp [h] at hf
      rwa [List.lookup_cons, beq_eq_false_iff_ne.2 hne]

theorem lookup_knownFields {f : Field Shape} {name : String} (hf : fields.find? (·.name == name) = some f)
    (es : Entries) : (knownFields fields es).lookup name = (es.lookup name).map f.shape.known := by
  induction fields with
  | nil => simp at hf
  | cons g fields ih =>
    rw [List.find?_cons] at hf
    rw [knownFields]
    by_cases hn : g.name = name
    · obtain rfl : g = f := by simpa [hn] using hf
      subst hn
      cases hl : es.lookup g.name with
      | none => exact lookup_knownFields_of_none hl fields
      | some d => rw [List.lookup_cons_self]; rfl
    · rw [beq_eq_false_iff_ne.2 hn] at hf
      cases hl : es.lookup g.name with
      | none => exact ih hf
      | some d =>
        rw [List.lookup_cons, beq_eq_false_iff_ne.2 (Ne.symm hn)]
        exact ih hf

theorem absent_knownFields {names : List String} (h : ∀ n ∈ names, n ∈ fields.map Field.name) (es : Entries) :
    absent names (knownFields fields es) = absent names es := by
  refine List.filter_congr fun n hn => ?_
  obtain ⟨f, hf⟩ := Option.isSome_iff_exists.1 (List.find?_isSome (p := fun f : Field Shape => f.name == n) |>.2
    (by simpa using h n hn))
  rw [lookup_knownFields hf, Option.isNone_map]

end Shape

/-! ### Faithful readers -/

@[simp] theorem pure_eq_ok_iff {ε α : Type} {a b : α} : (pure a : Except ε α) = .ok b ↔ a = b :=
  ⟨Except.ok.inj, congrArg Except.ok⟩

@[simp] theorem bind_eq_ok_iff {ε α β : Type} {x : Except ε α} {f : α → Except ε β} {b : β} :
    x >>= f = .ok b ↔ ∃ a, x = .ok a ∧ f a = .ok b := by
  cases x with
  | error e => simp [Bind.bind, Except.bind]
  | ok a => simp [Bind.bind, Except.bind]

/-- The reader takes data for `a` just if the data has the shape, is `enc a` when it is written out,
and `a` meets the conditions. -/
structure Faithful {α : Type} (reader : Reader α) (shape : Shape) (enc : α → Data) (ok : α → Prop) : Prop where
  reads : ∀ path d a, reader path d = .ok a ↔ shape.Gives d (enc a) ∧ ok a
  /-- Only conditions can fail on data of the shape. -/
  total : ∀ d, shape.fits d = true → ∃ a, shape.Gives d (enc a)
  back : ∀ path a, ok a → reader path (enc a) = .ok a
  /-- What the shape does not name has no effect. -/
  known : ∀ path d, reader path (shape.known d) = reader path d

namespace Faithful
variable {α : Type} {reader : Reader α} {shape : Shape} {enc : α → Data} {ok : α → Prop}

/-! Single values -/

theorem bool : Faithful asBool .bool .bool fun _ => True where
  reads path d a := by cases d <;> simp [asBool, Shape.Gives, Shape.fits, Shape.complete]
  total d h := by cases d <;> simp_all [Shape.Gives, Shape.fits, Shape.complete]
  back _ _ _ := rfl
  known path d := by rw [Shape.known] <;> simp

theorem int : Faithful asInt .int .int fun _ => True where
  reads path d a := by cases d <;> simp [asInt, Shape.Gives, Shape.fits, Shape.complete]
  total d h := by cases d <;> simp_all [Shape.Gives, Shape.fits, Shape.complete]
  back _ _ _ := rfl
  known path d := by rw [Shape.known] <;> simp

theorem gives_text {d : Data} {s : String} : Shape.text.Gives d (.text s) ↔ d = .text s := by
  cases d <;> simp [Shape.Gives, Shape.fits, Shape.complete]

theorem text : Faithful asText .text .text fun _ => True where
  reads path d a := by rw [gives_text]; cases d <;> simp [asText]
  total d h := by cases d <;> simp_all [Shape.Gives, Shape.fits, Shape.complete]
  back _ _ _ := rfl
  known path d := by rw [Shape.known] <;> simp

/-! Lists -/

theorem exists_forall₂ (h : ∀ d, shape.fits d = true → ∃ a, shape.Gives d (enc a)) {ds : List Data}
    (hds : ∀ d ∈ ds, shape.fits d = true) : ∃ as : List α, List.Forall₂ shape.Gives ds (as.map enc) := by
  induction ds with
  | nil => exact ⟨[], .nil⟩
  | cons d ds ih =>
    obtain ⟨a, ha⟩ := h d (hds d (by simp))
    obtain ⟨as, has⟩ := ih fun x hx => hds x (by simp [hx])
    exact ⟨a :: as, .cons ha has⟩

theorem readItems_eq_ok_iff (h : Faithful reader shape enc ok) (path : String) (i : Nat) {ds : List Data}
    {as : List α} : readItems reader path i ds = .ok as ↔
      List.Forall₂ shape.Gives ds (as.map enc) ∧ ∀ a ∈ as, ok a := by
  induction ds generalizing i as with
  | nil => cases as <;> simp [readItems]
  | cons d ds ih =>
    simp only [readItems, bind_eq_ok_iff, h.reads, ih, pure, Except.pure, Except.ok.injEq]
    cases as with
    | nil => simp
    | cons a as =>
      simp only [List.map_cons, List.forall₂_cons, List.forall_mem_cons, List.cons.injEq]
      constructor
      · rintro ⟨_, ⟨ha, hok⟩, _, ⟨has, hoks⟩, rfl, rfl⟩
        exact ⟨⟨ha, has⟩, hok, hoks⟩
      · rintro ⟨⟨ha, has⟩, hok, hoks⟩
        exact ⟨a, ⟨ha, hok⟩, as, ⟨has, hoks⟩, rfl, rfl⟩

theorem readItems_known (h : Faithful reader shape enc ok) (path : String) (i : Nat) (ds : List Data) :
    readItems reader path i (ds.map fun d => shape.known d) = readItems reader path i ds := by
  induction ds generalizing i with
  | nil => rfl
  | cons d ds ih => simp only [List.map_cons, readItems, h.known, ih]

theorem list (h : Faithful reader shape enc ok) :
    Faithful (asList reader) (.list shape) (fun as => .list (as.map enc)) fun as => ∀ a ∈ as, ok a where
  reads path d as := by
    cases d with
    | list ds => rw [Shape.gives_list]; exact h.readItems_eq_ok_iff path 0
    | _ => simp [asList, Shape.Gives, Shape.fits]
  total d hd := by
    cases d with
    | list ds =>
      have hds : ∀ d ∈ ds, shape.fits d = true := by simpa [Shape.fits] using hd
      obtain ⟨as, has⟩ := exists_forall₂ h.total hds
      exact ⟨as, Shape.gives_list.2 has⟩
    | _ => simp [Shape.fits] at hd
  back path as has := readItems_map_of h.back path 0 has
  known path d := by
    cases d with
    | list ds => rw [Shape.known]; exact h.readItems_known path 0 ds
    | _ => rw [Shape.known] <;> simp

theorem texts?_eq_some_iff {ds : List Data} {ss : List String} : texts? ds = some ss ↔ ds = ss.map .text := by
  constructor
  · intro h
    fun_induction texts? ds generalizing ss with
    | case1 => simp_all
    | case2 s rest ih =>
      obtain ⟨ss, hss, rfl⟩ := Option.map_eq_some_iff.1 h
      rw [ih hss, List.map_cons]
    | case3 => simp at h
  · rintro rfl
    exact texts?_map_text ss

theorem forall₂_gives_text {ds : List Data} {ss : List String} :
    List.Forall₂ Shape.text.Gives ds (ss.map .text) ↔ ds = ss.map .text := by
  rw [List.forall₂_map_right_iff, ← List.forall₂_eq_eq_eq, List.forall₂_map_right_iff]
  simp only [gives_text]

theorem texts : Faithful asTexts (.list .text) Codec.texts fun _ => True where
  reads path d ss := by
    cases d with
    | list ds =>
      rw [Codec.texts, Shape.gives_list, forall₂_gives_text, ← texts?_eq_some_iff, asTexts]
      cases texts? ds <;> simp
    | _ => simp [asTexts, Shape.Gives, Shape.fits]
  total d h := (list text).total d h
  back path ss _ := asTexts_texts path ss
  known path d := by
    cases d with
    | list ds =>
      have hknown : ds.map (fun d => Shape.text.known d) = ds := by
        conv_rhs => rw [← List.map_id ds]
        exact List.map_congr_left fun d _ => by rw [Shape.known] <;> simp
      rw [Shape.known, hknown]
    | _ => rw [Shape.known] <;> simp

/-! Maps of texts -/

theorem textEntries?_eq_some_iff {es : Entries} {ss : List (String × String)} :
    textEntries? es = some ss ↔ es = ss.map fun e => (e.1, .text e.2) := by
  constructor
  · intro h
    fun_induction textEntries? es generalizing ss with
    | case1 => simp_all
    | case2 k s rest ih =>
      obtain ⟨ss, hss, rfl⟩ := Option.map_eq_some_iff.1 h
      rw [ih hss, List.map_cons]
    | case3 => simp at h
  · rintro rfl
    exact textEntries?_map ss

theorem firstEntries_map_text (ss : List (String × String)) :
    Shape.firstEntries (ss.map fun e => (e.1, .text e.2)) = (firstOfEach ss).map fun e => (e.1, .text e.2) := by
  induction ss with
  | nil => rfl
  | cons s ss ih =>
    rw [List.map_cons, Shape.firstEntries, ih, firstOfEach, List.map_cons, List.filter_map]
    rfl

theorem nodup_firstOfEach (ss : List (String × String)) : ((firstOfEach ss).map (·.1)).Nodup := by
  induction ss with
  | nil => simp [firstOfEach]
  | cons s ss ih =>
    rw [firstOfEach, List.map_cons, List.nodup_cons]
    exact ⟨by simp, ih.sublist (List.filter_sublist.map _)⟩

theorem fits_map_text {es : Entries} (h : (Shape.map .text).fits (.map es) = true) :
    ∃ ss : List (String × String), es = ss.map fun e => (e.1, .text e.2) := by
  rw [Shape.fits, List.all_eq_true] at h
  induction es with
  | nil => exact ⟨[], rfl⟩
  | cons e es ih =>
    obtain ⟨ss, rfl⟩ := ih fun x hx => h x (by simp [hx])
    obtain ⟨s, hs⟩ := text.total e.2 (h e (by simp))
    exact ⟨(e.1, s) :: ss, by rw [List.map_cons, ← gives_text.1 hs]⟩

theorem mapText_injective :
    Function.Injective fun ss : List (String × String) => ss.map fun e => (e.1, Data.text e.2) := by
  refine List.map_injective_iff.2 ?_
  rintro ⟨k, s⟩ ⟨k', s'⟩ h
  simpa using h

theorem gives_map_text {ss rs : List (String × String)} :
    (Shape.map .text).Gives (.map (ss.map fun e => (e.1, .text e.2))) (.map (rs.map fun e => (e.1, .text e.2))) ↔
      firstOfEach ss = rs := by
  have hcomplete : (ss.map fun e => (e.1, Data.text e.2)).map (fun e => (e.1, Shape.text.complete e.2)) =
      ss.map fun e => (e.1, Data.text e.2) := by
    rw [List.map_map]
    exact List.map_congr_left fun e _ => by simp [Shape.complete]
  rw [Shape.Gives, Shape.fits, Shape.complete, hcomplete, firstEntries_map_text, Data.map.injEq,
    mapText_injective.eq_iff]
  simp [Shape.fits]

theorem textMap : Faithful asTextMap (.map .text) (fun es => .map (es.map fun e => (e.1, .text e.2)))
    fun es => (es.map (·.1)).Nodup where
  reads path d rs := by
    cases d with
    | map es =>
      rw [asTextMap]
      cases h : textEntries? es with
      | none =>
        have hfits : ¬(Shape.map .text).fits (.map es) = true := by
          intro hf
          obtain ⟨ss, hss⟩ := fits_map_text hf
          rw [textEntries?_eq_some_iff.2 hss] at h
          cases h
        simp [Shape.Gives, hfits]
      | some ss =>
        rw [textEntries?_eq_some_iff.1 h, gives_map_text, Except.ok.injEq]
        exact ⟨fun hr => ⟨hr, hr ▸ nodup_firstOfEach ss⟩, And.left⟩
    | _ => simp [asTextMap, Shape.Gives, Shape.fits]
  total d h := by
    cases d with
    | map es =>
      obtain ⟨ss, rfl⟩ := fits_map_text h
      exact ⟨firstOfEach ss, gives_map_text.2 rfl⟩
    | _ => simp [Shape.fits] at h
  back path ss h := asTextMap_map path h
  known path d := by
    cases d with
    | map es =>
      have hknown : es.map (fun e => (e.1, Shape.text.known e.2)) = es := by
        conv_rhs => rw [← List.map_id es]
        exact List.map_congr_left fun e _ => by rw [Shape.known] <;> simp
      rw [Shape.known, hknown]
    | _ => rw [Shape.known] <;> simp

/-! Fields -/

variable {name path : String} {es : Entries} {base a : α}

/-- A field that is read over a base has the base for its default. -/
theorem field_eq_ok_iff (h : Faithful reader shape enc ok) (hbase : ok base) :
    field path es name reader base = .ok a ↔ (Field.mk name (some (enc base)) shape).Gives es (enc a) ∧ ok a := by
  unfold field Field.Gives Field.fits Field.value
  cases es.lookup name with
  | some d => exact h.reads _ d a
  | none =>
    have hinj : ok a → enc base = enc a → base = a := by
      intro ha he
      have hread := h.back path base hbase
      rw [he, h.back path a ha] at hread
      exact (Except.ok.inj hread).symm
    simp only [Option.isSome_some, Option.getD_some, Except.ok.injEq, true_and]
    constructor
    · rintro rfl
      exact ⟨rfl, hbase⟩
    · rintro ⟨he, ha⟩
      exact hinj ha he

@[simp] theorem bool_eq_ok_iff {b c : Bool} : field path es name asBool b = .ok c ↔
    (Field.mk name (some (.bool b)) .bool).Gives es (.bool c) := by
  simpa using bool.field_eq_ok_iff trivial

@[simp] theorem int_eq_ok_iff {m n : Int} : field path es name asInt m = .ok n ↔
    (Field.mk name (some (.int m)) .int).Gives es (.int n) := by
  simpa using int.field_eq_ok_iff trivial

@[simp] theorem text_eq_ok_iff {s t : String} : field path es name asText s = .ok t ↔
    (Field.mk name (some (.text s)) .text).Gives es (.text t) := by
  simpa using text.field_eq_ok_iff trivial

@[simp] theorem texts_eq_ok_iff {ss ts : List String} : field path es name asTexts ss = .ok ts ↔
    (Field.mk name (some (Codec.texts ss)) (.list .text)).Gives es (Codec.texts ts) := by
  simpa using texts.field_eq_ok_iff trivial

@[simp] theorem textMap_eq_ok_iff {ss : List (String × String)} : field path es name asTextMap [] = .ok ss ↔
    (Field.mk name (some (.map [])) (.map .text)).Gives es (.map (ss.map fun e => (e.1, .text e.2))) ∧
      (ss.map (·.1)).Nodup :=
  textMap.field_eq_ok_iff List.nodup_nil

theorem list_eq_ok_iff (h : Faithful reader shape enc ok) {as : List α} :
    field path es name (asList reader) [] = .ok as ↔
      (Field.mk name (some (.list [])) (.list shape)).Gives es (.list (as.map enc)) ∧ ∀ a ∈ as, ok a :=
  h.list.field_eq_ok_iff (by simp)

/-- A field that has to be named is one with any default that is named. -/
theorem gives_required {v : Data} (default : Data) : (Field.mk name none shape).Gives es v ↔
    (Field.mk name (some default) shape).Gives es v ∧ (es.lookup name).isSome = true := by
  unfold Field.Gives Field.fits Field.value
  cases es.lookup name <;> simp

/-- Data fits a field just if it gives the field a value, where the default is one. -/
theorem fits_iff_gives (h : Faithful reader shape enc ok) {default : Option Data}
    (hdefault : ∀ d ∈ default, ∃ a, enc a = d) : (Field.mk name default shape).fits es = true ↔
      ∃ a, (Field.mk name default shape).Gives es (enc a) := by
  refine ⟨fun hf => ?_, fun ⟨_, ha⟩ => ha.1⟩
  unfold Field.fits at hf
  unfold Field.Gives Field.fits Field.value
  cases hl : es.lookup name with
  | some d => rw [hl] at hf; exact h.total d hf
  | none =>
    rw [hl] at hf
    obtain ⟨d, rfl⟩ := Option.isSome_iff_exists.1 hf
    obtain ⟨a, rfl⟩ := hdefault d rfl
    exact ⟨a, rfl, rfl⟩

theorem fits_field_iff (h : Faithful reader shape enc ok) (base : α) :
    (Field.mk name (some (enc base)) shape).fits es = true ↔
      ∃ a, (Field.mk name (some (enc base)) shape).Gives es (enc a) :=
  h.fits_iff_gives fun _ hd => ⟨base, Option.some.inj hd⟩

theorem fits_textMap_iff : (Field.mk name (some (.map [])) (.map .text)).fits es = true ↔
    ∃ ss : List (String × String),
      (Field.mk name (some (.map [])) (.map .text)).Gives es (.map (ss.map fun e => (e.1, .text e.2))) :=
  textMap.fits_field_iff []

theorem fits_list_iff (h : Faithful reader shape enc ok) :
    (Field.mk name (some (.list [])) (.list shape)).fits es = true ↔
      ∃ as : List α, (Field.mk name (some (.list [])) (.list shape)).Gives es (.list (as.map enc)) :=
  h.list.fits_field_iff []

theorem fits_required_iff (h : Faithful reader shape enc ok) : (Field.mk name none shape).fits es = true ↔
    ∃ a, (Field.mk name none shape).Gives es (enc a) :=
  h.fits_iff_gives (by simp)

/-! Keywords -/

section Keywords
variable (β : Type) [Keyword β]

theorem fits_keyword {d : Data} : (Shape.keyword β).fits d = true ↔ ∃ b : β, d = word b := by
  constructor
  · intro h
    cases d with
    | text s =>
      obtain ⟨b, -, rfl⟩ : ∃ b ∈ (Keyword.all : List β), spell b = s := by simpa [Shape.keyword, Shape.fits] using h
      exact ⟨b, rfl⟩
    | _ => simp [Shape.keyword, Shape.fits] at h
  · rintro ⟨b, rfl⟩
    have hmem : b ∈ (Keyword.all : List β) := Keyword.mem_all b
    simpa [Shape.keyword, Shape.fits, word] using ⟨b, hmem, rfl⟩

theorem complete_keyword (d : Data) : (Shape.keyword β).complete d = d := by
  rw [Shape.keyword, Shape.complete] <;> simp

variable {β}

@[simp] theorem gives_spell {base b : β} :
    (Field.mk name (some (.text (spell base))) .text).Gives es (.text (spell b)) ↔
      (Field.mk name (some (word base)) (Shape.keyword β)).Gives es (word b) := by
  unfold Field.Gives Field.fits Field.value
  cases es.lookup name with
  | none => simp [word]
  | some d =>
    have hfits : d = word b → (Shape.keyword β).fits d = true := fun h => (fits_keyword β).2 ⟨b, h⟩
    simp only [complete_keyword]
    exact gives_text.trans ⟨fun h => ⟨hfits h, h⟩, And.right⟩

theorem fits_keyword_iff {base : β} : (Field.mk name (some (word base)) (Shape.keyword β)).fits es = true ↔
    ∃ b : β, (Field.mk name (some (word base)) (Shape.keyword β)).Gives es (word b) := by
  refine ⟨fun hf => ?_, fun ⟨_, hb⟩ => hb.1⟩
  unfold Field.fits at hf
  unfold Field.Gives Field.fits Field.value
  cases hl : es.lookup name with
  | none => exact ⟨base, rfl, rfl⟩
  | some d =>
    rw [hl] at hf
    obtain ⟨b, rfl⟩ := (fits_keyword β).1 hf
    exact ⟨b, hf, complete_keyword β _⟩

@[simp] theorem member_eq_ok_iff {w : String} {b : β} : member w = .ok b ↔ w = spell b := by
  constructor
  · intro h
    unfold member at h
    split at h
    · next c hc => cases h; exact (Keyword.spell_of_read? hc).symm
    · cases h
  · rintro rfl
    exact member_spell b

variable (β) in
theorem keyword_known (path : String) (d : Data) : asText path ((Shape.keyword β).known d) = asText path d := by
  rw [Shape.keyword, Shape.known] <;> simp

end Keywords

/-! Records -/

@[simp] theorem needs_eq_ok_iff {record : String} {names : List String} :
    needs record names es = .ok () ↔ ∀ n ∈ names, (es.lookup n).isSome = true := by
  have hmissing : absent names es = [] ↔ ∀ n ∈ names, (es.lookup n).isSome = true := by
    simp [absent, List.filter_eq_nil_iff, Option.isSome_iff_ne_none]
  rw [← hmissing, needs]
  cases absent names es <;> simp

@[simp] theorem require_eq_ok_iff {b : Bool} {f : Fault} : require .nothing b f = .ok () ↔ b = true := by
  cases b <;> simp [require]

theorem field_known (h : ∀ path d, reader path (shape.known d) = reader path d) {fields : List (Field Shape)}
    (hf : (fields.find? (·.name == name)).map Field.shape = some shape) :
    field path (Shape.knownFields fields es) name reader base = field path es name reader base := by
  obtain ⟨f, hfind, rfl⟩ := Option.map_eq_some_iff.1 hf
  unfold field
  rw [Shape.lookup_knownFields hfind]
  cases es.lookup name with
  | none => rfl
  | some d => exact h _ d

theorem needs_known {fields : List (Field Shape)} {record : String} {names : List String}
    (h : ∀ n ∈ names, n ∈ fields.map Field.name) :
    needs record names (Shape.knownFields fields es) = needs record names es := by
  rw [needs, Shape.absent_knownFields h, needs]

/-- A record is read faithfully if its fields are. -/
theorem record {fields : List (Field Shape)} {toEntries : α → Entries} {place : String → String}
    {body : String → Entries → Except Fault α}
    (hbody : ∀ path d, reader path d = asMap (place path) d >>= body path)
    (hreads : ∀ path es a, body path es = .ok a ↔
      (Shape.record fields).Gives (.map es) (.map (toEntries a)) ∧ ok a)
    (htotal : ∀ es, (∀ f ∈ fields, f.fits es = true) →
      ∃ a, (Shape.record fields).Gives (.map es) (.map (toEntries a)))
    (hback : ∀ path a, ok a → body path (toEntries a) = .ok a)
    (hknown : ∀ path es, body path (Shape.knownFields fields es) = body path es) :
    Faithful reader (.record fields) (fun a => .map (toEntries a)) ok where
  reads path d a := by
    rw [hbody]
    cases d with
    | map es => exact hreads path es a
    | _ => simp [asMap, Shape.Gives, Shape.fits]
  total d h := by
    cases d with
    | map es => exact htotal es (Shape.fits_record.1 h)
    | _ => simp [Shape.fits] at h
  back path a ha := (hbody path _).trans (hback path a ha)
  known path d := by
    rw [hbody, hbody]
    cases d with
    | map es => rw [Shape.known]; exact hknown path es
    | _ => rw [Shape.known] <;> simp

end Faithful
end SiteConf
