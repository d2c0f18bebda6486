import SiteConf.Site.Codec
import SiteConf.Proofs.JsonText

/-!
# Signatures determine sites

Sorting the keys of a map loses only the order of its entries, so two records with the same fields
are told apart after sorting. A site has a signature unless a number in it has too many digits
(`Site.exists_signature_iff`). Sites with equal signatures are equal up to the order of their asset
classes (`Site.eq_of_signature_eq`), which has no effect on a signature (`Site.signature_eq_iff`).
-/

namespace SiteConf
namespace Data

/-! ### Sorted keys -/

theorem sortKeysItems_eq_map (ds : List Data) : sortKeysItems ds = ds.map sortKeys := by
  induction ds with
  | nil => rfl
  | cons d ds ih => simp [sortKeysItems, ih]

theorem sortKeysEntries_eq_map (es : Entries) :
    sortKeysEntries es = es.map fun e => (e.1, sortKeys e.2) := by
  induction es with
  | nil => rfl
  | cons e es ih => simp [sortKeysEntries, ih]

mutual
theorem floatFree_sortKeys : ∀ {d : Data}, FloatFree d → FloatFree (sortKeys d)
  | .null, _ | .bool _, _ | .int _, _ | .text _, _ => trivial
  | .float _, h => absurd h (by simp [FloatFree])
  | .list items, h => by
    rw [sortKeys, FloatFree]
    rw [FloatFree] at h
    exact floatFree_sortKeysItems h
  | .map entries, h => by
    rw [sortKeys, FloatFree, entriesFloatFree_iff]
    rw [FloatFree] at h
    intro e he
    exact floatFree_sortKeysEntries h e (List.mem_mergeSort.1 he)

theorem floatFree_sortKeysItems : ∀ {ds : List Data}, ItemsFloatFree ds → ItemsFloatFree (sortKeysItems ds)
  | [], _ => trivial
  | _ :: _, h => ⟨floatFree_sortKeys h.1, floatFree_sortKeysItems h.2⟩

theorem floatFree_sortKeysEntries : ∀ {es : Entries}, EntriesFloatFree es →
    ∀ e ∈ sortKeysEntries es, FloatFree e.2
  | [], _ => by simp [sortKeysEntries]
  | (_, _) :: _, h => List.forall_mem_cons.2 ⟨floatFree_sortKeys h.1, floatFree_sortKeysEntries h.2⟩
end

/-- Entries with the same keys in the same order are not told apart by sorting only if they are
equal. -/
theorem eq_of_mergeSort_eq {xs ys : Entries} (hk : xs.map Prod.fst = ys.map Prod.fst)
    (hn : (xs.map Prod.fst).Nodup) (h : xs.mergeSort keyLE = ys.mergeSort keyLE) : xs = ys := by
  have hp : xs.Perm ys := (List.mergeSort_perm xs keyLE).symm.trans (h ▸ List.mergeSort_perm ys keyLE)
  clear h
  induction xs generalizing ys with
  | nil => exact hp.nil_eq
  | cons x xs ih =>
    cases ys with
    | nil => simp at hk
    | cons y ys =>
      simp only [List.map_cons, List.cons.injEq, List.nodup_cons] at hk hn
      have hxy : x = y := by
        rcases List.mem_cons.1 (hp.subset (List.mem_cons_self)) with hx | hx
        · exact hx
        · exact absurd (hk.2 ▸ List.mem_map_of_mem hx) hn.1
      subst hxy
      rw [ih hk.2 hn.2 ((List.perm_cons x).1 hp)]

theorem keyLE_trans (a b c : String × Data) (hab : keyLE a b = true) (hbc : keyLE b c = true) : keyLE a c = true :=
  decide_eq_true ((of_decide_eq_true hab).trans (of_decide_eq_true hbc))

theorem keyLE_total (a b : String × Data) : (keyLE a b || keyLE b a) = true := by
  rw [Bool.or_eq_true]
  exact (Std.le_total (a := a.1) (b := b.1)).imp decide_eq_true decide_eq_true

theorem mergeSort_eq_of_perm {xs ys : Entries} (h : xs.Perm ys) (hn : (xs.map Prod.fst).Nodup) :
    xs.mergeSort keyLE = ys.mergeSort keyLE := by
  have hsorted : ∀ es : Entries, (es.mergeSort keyLE).Pairwise fun a b => keyLE a b = true :=
    List.pairwise_mergeSort keyLE_trans keyLE_total
  have hperm : (xs.mergeSort keyLE).Perm (ys.mergeSort keyLE) :=
    (List.mergeSort_perm xs keyLE).trans (h.trans (List.mergeSort_perm ys keyLE).symm)
  refine hperm.eq_of_pairwise ?_ (hsorted xs) (hsorted ys)
  intro a b ha hb hab hba
  have hkey : a.1 = b.1 := String.le_antisymm (of_decide_eq_true hab) (of_decide_eq_true hba)
  rw [List.mem_mergeSort] at ha hb
  exact List.inj_on_of_nodup_map hn ha (h.mem_iff.2 hb) hkey

theorem sortKeysEntries_inj {xs ys : Entries} (h : sortKeys (.map xs) = sortKeys (.map ys))
    (hk : xs.map Prod.fst = ys.map Prod.fst) (hn : (xs.map Prod.fst).Nodup) :
    sortKeysEntries xs = sortKeysEntries ys := by
  simp only [sortKeys, map.injEq] at h
  have hkeys : ∀ es : Entries, (sortKeysEntries es).map Prod.fst = es.map Prod.fst := fun es => by
    rw [sortKeysEntries_eq_map, List.map_map]; rfl
  exact eq_of_mergeSort_eq (by rw [hkeys, hkeys, hk]) (by rwa [hkeys]) h

theorem sortKeys_list_map_inj {α : Type} {f : α → Data} (hf : ∀ a b, sortKeys (f a) = sortKeys (f b) → a = b)
    {xs ys : List α} (h : sortKeys (.list (xs.map f)) = sortKeys (.list (ys.map f))) : xs = ys := by
  simp only [sortKeys, list.injEq, sortKeysItems_eq_map, List.map_map] at h
  exact List.map_injective_iff.2 (fun a b hab => hf a b hab) h

@[simp] theorem sortKeys_bool (b : Bool) : sortKeys (bool b) = bool b := rfl
@[simp] theorem sortKeys_int (n : Int) : sortKeys (int n) = int n := rfl
@[simp] theorem sortKeys_text (s : String) : sortKeys (text s) = text s := rfl

end Data

open Data Codec Text

@[simp] theorem sortKeys_word {α : Type} [Keyword α] (a : α) : sortKeys (word a) = word a := rfl

theorem sortKeys_texts_inj {xs ys : List String} (h : sortKeys (texts xs) = sortKeys (texts ys)) : xs = ys :=
  sortKeys_list_map_inj (fun _ _ h => by simpa using h) h

theorem word_inj {α : Type} [Keyword α] {a b : α} (h : word a = word b) : a = b :=
  Keyword.spell_inj (Data.text.inj h)

/-! ### Records -/

theorem Header.sortKeys_inj {a b : Header} (h : sortKeys (.map a.toEntries) = sortKeys (.map b.toEntries)) :
    a = b := by
  have h := sortKeysEntries_inj h rfl (by simp [Header.toEntries])
  simp only [Header.toEntries, sortKeysEntries, List.cons.injEq, Prod.mk.injEq, true_and, and_true,
    sortKeys_text, Data.text.injEq] at h
  cases a
  cases b
  simp_all

theorem sortKeys_headers_inj {xs ys : List Header}
    (h : sortKeys (.list (xs.map fun h => .map h.toEntries)) =
      sortKeys (.list (ys.map fun h => .map h.toEntries))) : xs = ys :=
  sortKeys_list_map_inj (fun _ _ => Header.sortKeys_inj) h

theorem Ssl.sortKeys_inj {a b : Ssl} (h : sortKeys (.map a.toEntries) = sortKeys (.map b.toEntries)) :
    a = b := by
  have h := sortKeysEntries_inj h rfl (by simp [Ssl.toEntries])
  simp only [Ssl.toEntries, sortKeysEntries, List.cons.injEq, Prod.mk.injEq, true_and, and_true,
    sortKeys_bool, sortKeys_text, sortKeys_word, Data.bool.injEq, Data.text.injEq] at h
  obtain ⟨h1, h2, h3, h4, h5, h6, h7, h8, h9⟩ := h
  have h4 := sortKeys_texts_inj h4
  have h8 := word_inj h8
  cases a
  cases b
  simp_all

theorem ReverseProxy.sortKeys_inj {a b : ReverseProxy}
    (h : sortKeys (.map a.toEntries) = sortKeys (.map b.toEntries)) : a = b := by
  have h := sortKeysEntries_inj h rfl (by simp [ReverseProxy.toEntries])
  simp only [ReverseProxy.toEntries, sortKeysEntries, List.cons.injEq, Prod.mk.injEq, true_and, and_true,
    sortKeys_bool, sortKeys_text, Data.bool.injEq, Data.text.injEq] at h
  obtain ⟨h1, h2, h3, h4, h5⟩ := h
  have h5 := sortKeys_headers_inj h5
  cases a
  cases b
  simp_all

theorem Security.sortKeys_inj {a b : Security}
    (h : sortKeys (.map a.toEntries) = sortKeys (.map b.toEntries)) : a = b := by
  have h := sortKeysEntries_inj h rfl (by simp [Security.toEntries])
  simp only [Security.toEntries, sortKeysEntries, List.cons.injEq, Prod.mk.injEq, true_and, and_true,
    sortKeys_bool, sortKeys_int, sortKeys_text, Data.bool.injEq, Data.int.injEq, Data.text.injEq] at h
  obtain ⟨h1, h2, h3, h4, h5, h6, h7, h8, h9, h10⟩ := h
  have h6 := sortKeys_texts_inj h6
  have h7 := sortKeys_texts_inj h7
  cases a
  cases b
  simp_all

/-- The expiries of asset classes may stand in another order. -/
theorem Performance.sortKeys_inj {a b : Performance}
    (h : sortKeys (.map a.toEntries) = sortKeys (.map b.toEntries)) :
    a.assetCacheExpiry.Perm b.assetCacheExpiry ∧ a = { b with assetCacheExpiry := a.assetCacheExpiry } := by
  have h := sortKeysEntries_inj h rfl (by simp [Performance.toEntries])
  simp only [Performance.toEntries, sortKeysEntries, List.cons.injEq, Prod.mk.injEq, true_and, and_true,
    sortKeys_bool, sortKeys_int, sortKeys_text, sortKeys_word, Data.bool.injEq, Data.int.injEq,
    Data.text.injEq] at h
  obtain ⟨h1, h2, h3, h4, h5, h6, h7, h8, h9, h10, h11, h12⟩ := h
  have h2 := sortKeys_texts_inj h2
  have h4 := sortKeys_texts_inj h4
  have h10 := word_inj h10
  constructor
  · simp only [sortKeys, Data.map.injEq, sortKeysEntries_eq_map, List.map_map] at h7
    have hp := (List.mergeSort_perm _ keyLE).symm.trans (h7.symm ▸ List.mergeSort_perm _ keyLE)
    refine (List.map_perm_map_iff fun x y hxy => ?_).1 hp
    simpa [Prod.ext_iff] using hxy
  · cases a
    cases b
    simp_all

theorem Logging.sortKeys_inj {a b : Logging}
    (h : sortKeys (.map a.toEntries) = sortKeys (.map b.toEntries)) : a = b := by
  have h := sortKeysEntries_inj h rfl (by simp [Logging.toEntries])
  simp only [Logging.toEntries, sortKeysEntries, List.cons.injEq, Prod.mk.injEq, true_and, and_true,
    sortKeys_bool, sortKeys_text, sortKeys_word, Data.bool.injEq, Data.text.injEq] at h
  obtain ⟨h1, h2, h3, h4, h5⟩ := h
  have h5 := word_inj h5
  cases a
  cases b
  simp_all

theorem PoolMember.sortKeys_inj {a b : PoolMember}
    (h : sortKeys (.map a.toEntries) = sortKeys (.map b.toEntries)) : a = b := by
  have h := sortKeysEntries_inj h rfl (by simp [PoolMember.toEntries])
  simp only [PoolMember.toEntries, sortKeysEntries, List.cons.injEq, Prod.mk.injEq, true_and, and_true,
    sortKeys_int, sortKeys_text, Data.int.injEq, Data.text.injEq] at h
  cases a
  cases b
  simp_all

theorem Upstream.sortKeys_inj {a b : Upstream}
    (h : sortKeys (.map a.toEntries) = sortKeys (.map b.toEntries)) : a = b := by
  have h := sortKeysEntries_inj h rfl (by simp [Upstream.toEntries])
  simp only [Upstream.toEntries, sortKeysEntries, List.cons.injEq, Prod.mk.injEq, true_and, and_true,
    sortKeys_bool, sortKeys_text, sortKeys_word, Data.bool.injEq, Data.text.injEq] at h
  obtain ⟨h1, h2, h3, h4⟩ := h
  have h3 := word_inj h3
  have h4 := sortKeys_list_map_inj (fun _ _ => PoolMember.sortKeys_inj) h4
  cases a
  cases b
  simp_all

theorem Location.sortKeys_inj {a b : Location}
    (h : sortKeys (.map a.toEntries) = sortKeys (.map b.toEntries)) : a = b := by
  have h := sortKeysEntries_inj h rfl (by simp [Location.toEntries])
  simp only [Location.toEntries, sortKeysEntries, List.cons.injEq, Prod.mk.injEq, true_and, and_true,
    sortKeys_bool, sortKeys_int, sortKeys_text, sortKeys_word, Data.bool.injEq, Data.int.injEq,
    Data.text.injEq] at h
  obtain ⟨h1, h2, h3, h4, h5, h6, h7, h8, h9, h10, h11, h12, h13, h14, h15, h16⟩ := h
  have h2 := word_inj h2
  have h3 := word_inj h3
  have h11 := sortKeys_headers_inj h11
  cases a
  cases b
  simp_all

/-! ### Maps of expiries -/

theorem lookup_eq_some_iff_mem {α : Type} {es : List (String × α)} (hn : (es.map (·.1)).Nodup) {k : String} {v : α} :
    es.lookup k = some v ↔ (k, v) ∈ es := by
  constructor
  · intro h
    obtain ⟨before, after, rfl, -⟩ := List.lookup_eq_some_iff.1 h
    simp
  · intro h
    obtain ⟨before, after, rfl⟩ := List.append_of_mem h
    refine List.lookup_eq_some_iff.2 ⟨before, after, rfl, fun e he => ?_⟩
    rw [List.map_append, List.nodup_append] at hn
    exact bne_iff_ne.2 (Ne.symm (hn.2.2 _ (List.mem_map_of_mem he) k (by simp)))

theorem perm_iff_lookup_eq {xs ys : List (String × String)} (hx : (xs.map (·.1)).Nodup)
    (hy : (ys.map (·.1)).Nodup) : xs.Perm ys ↔ ∀ k, xs.lookup k = ys.lookup k := by
  rw [List.perm_ext_iff_of_nodup hx.of_map hy.of_map]
  constructor
  · intro h k
    ext v
    rw [lookup_eq_some_iff_mem hx, lookup_eq_some_iff_mem hy, h]
  · rintro h ⟨k, v⟩
    rw [← lookup_eq_some_iff_mem hx, ← lookup_eq_some_iff_mem hy, h]

theorem Performance.sortKeys_withAssets {p : Performance} {es : List (String × String)}
    (h : es.Perm p.assetCacheExpiry) (hn : (es.map (·.1)).Nodup) :
    sortKeys (.map { p with assetCacheExpiry := es }.toEntries) = sortKeys (.map p.toEntries) := by
  have hkeys : ((es.map fun e => (e.1, sortKeys (.text e.2))).map Prod.fst).Nodup := by
    rw [List.map_map]
    exact hn
  have hassets : sortKeys (.map (es.map fun e => (e.1, .text e.2))) =
      sortKeys (.map (p.assetCacheExpiry.map fun e => (e.1, .text e.2))) := by
    simp only [sortKeys, sortKeysEntries_eq_map, List.map_map, Data.map.injEq]
    exact mergeSort_eq_of_perm (h.map _) hkeys
  simp only [Performance.toEntries, sortKeys, sortKeysEntries, Data.map.injEq] at hassets ⊢
  rw [hassets]

/-! ### Sites -/

theorem itemsFloatFree_map {α : Type} {f : α → Data} (hf : ∀ a, FloatFree (f a)) (xs : List α) :
    ItemsFloatFree (xs.map f) := by
  rw [itemsFloatFree_iff]
  intro d hd
  obtain ⟨a, -, rfl⟩ := List.mem_map.1 hd
  exact hf a

theorem floatFree_texts (ss : List String) : FloatFree (texts ss) :=
  itemsFloatFree_map (f := Data.text) (fun _ => trivial) ss

theorem itemsFloatFree_headers (hs : List Header) : ItemsFloatFree (hs.map fun h => .map h.toEntries) :=
  itemsFloatFree_map (f := fun h : Header => .map h.toEntries) (fun _ => ⟨trivial, trivial, trivial⟩) hs

theorem Location.floatFree_toEntries (l : Location) : FloatFree (.map l.toEntries) := by
  simp [Location.toEntries, FloatFree, EntriesFloatFree, word, itemsFloatFree_headers]

theorem PoolMember.floatFree_toEntries (m : PoolMember) : FloatFree (.map m.toEntries) := by
  simp [PoolMember.toEntries, FloatFree, EntriesFloatFree]

theorem Performance.floatFree_toEntries (p : Performance) : FloatFree (.map p.toEntries) := by
  have hassets : EntriesFloatFree (p.assetCacheExpiry.map fun e => (e.1, .text e.2)) := by
    rw [entriesFloatFree_iff]
    intro d hd
    obtain ⟨e, -, rfl⟩ := List.mem_map.1 hd
    trivial
  simp [Performance.toEntries, FloatFree, EntriesFloatFree, word, floatFree_texts, hassets]

theorem Site.floatFree_toData (s : Site) : FloatFree s.toData := by
  have hp : EntriesFloatFree s.performance.toEntries := s.performance.floatFree_toEntries
  have hl := itemsFloatFree_map Location.floatFree_toEntries s.locations
  have hm := itemsFloatFree_map PoolMember.floatFree_toEntries s.upstream.servers
  simp only [toData, toEntries, Ssl.toEntries, ReverseProxy.toEntries, Security.toEntries,
    Logging.toEntries, Upstream.toEntries, FloatFree, EntriesFloatFree, word, floatFree_texts,
    itemsFloatFree_headers, hp, hl, hm, and_self]

/-! ### The numbers of a site -/

theorem itemsIntegers_map {α : Type} (f : α → Data) (xs : List α) :
    itemsIntegers (xs.map f) = xs.flatMap fun x => (f x).integers := by
  induction xs with
  | nil => rfl
  | cons x xs ih => rw [List.map_cons, itemsIntegers, ih, List.flatMap_cons]

@[simp] theorem integers_texts (ss : List String) : (texts ss).integers = [] := by
  rw [texts, Data.integers, itemsIntegers_map, List.flatMap_eq_nil_iff]
  intro s _
  rfl

@[simp] theorem itemsIntegers_headers (hs : List Header) :
    itemsIntegers (hs.map fun h => .map h.toEntries) = [] := by
  rw [itemsIntegers_map, List.flatMap_eq_nil_iff]
  intro h _
  rfl

@[simp] theorem integers_word {α : Type} [Keyword α] (a : α) : (word a).integers = [] := rfl

theorem Performance.integers_toEntries (p : Performance) : entriesIntegers p.toEntries =
    [p.clientMaxBodySize, p.keepaliveTimeout, p.workerConnections] := by
  have hassets : entriesIntegers (p.assetCacheExpiry.map fun e => (e.1, .text e.2)) = [] := by
    induction p.assetCacheExpiry with
    | nil => rfl
    | cons e es ih => rw [List.map_cons, entriesIntegers, ih]; rfl
  simp [Performance.toEntries, entriesIntegers, Data.integers, hassets]

theorem PoolMember.integers_toEntries (m : PoolMember) : entriesIntegers m.toEntries = m.integers := rfl

theorem ReverseProxy.integers_toEntries (p : ReverseProxy) : entriesIntegers p.toEntries = [] := by
  simp [ReverseProxy.toEntries, entriesIntegers, Data.integers]

theorem Upstream.integers_toEntries (u : Upstream) :
    entriesIntegers u.toEntries = u.servers.flatMap PoolMember.integers := by
  simp [Upstream.toEntries, entriesIntegers, Data.integers, itemsIntegers_map, PoolMember.integers_toEntries]

theorem Location.integers_toEntries (l : Location) : entriesIntegers l.toEntries = l.integers := by
  simp [Location.toEntries, entriesIntegers, Data.integers, Location.integers]

theorem Site.mem_integers_toData {s : Site} {n : Int} : n ∈ s.toData.integers ↔ n ∈ s.integers := by
  simp only [toData, toEntries, Data.integers, entriesIntegers, integers_texts, Ssl.toEntries,
    ReverseProxy.integers_toEntries, Security.toEntries, Performance.integers_toEntries, Logging.toEntries,
    Upstream.integers_toEntries, integers_word, itemsIntegers_map, Location.integers_toEntries, Site.integers,
    List.mem_append, List.mem_cons, List.not_mem_nil, or_false, false_or]
  tauto

theorem Site.forall_integers_toData {s : Site} {P : Int → Prop} :
    (∀ n ∈ s.toData.integers, P n) ↔ ∀ n ∈ s.integers, P n :=
  forall_congr' fun _ => by rw [mem_integers_toData]

theorem Site.signature_eq_ok {s : Site} (h : ∀ n ∈ s.integers, FewDigits n) :
    s.signature = .ok s.toData.sortKeys.json :=
  if_pos (forall_integers_toData.2 h)

theorem Site.signature_eq_error {s : Site} (h : ¬∀ n ∈ s.integers, FewDigits n) :
    s.signature = .error .unwritable :=
  if_neg fun hd => h (forall_integers_toData.1 hd)

theorem Site.exists_signature_iff {s : Site} :
    (∃ written, s.signature = .ok written) ↔ ∀ n ∈ s.integers, FewDigits n := by
  refine ⟨fun ⟨written, h⟩ => ?_, fun h => ⟨_, signature_eq_ok h⟩⟩
  by_contra hmany
  rw [signature_eq_error hmany] at h
  nomatch h

/-! ### Sites and their signatures -/

/-- Sites with one signature differ at most in the order of their asset classes. -/
theorem Site.eq_of_signature_eq {s t : Site} (hs : ∀ n ∈ s.integers, FewDigits n)
    (ht : ∀ n ∈ t.integers, FewDigits n) (h : s.signature = t.signature) :
    s.performance.assetCacheExpiry.Perm t.performance.assetCacheExpiry ∧
      s = { t with
        performance := { t.performance with assetCacheExpiry := s.performance.assetCacheExpiry } } := by
  rw [signature_eq_ok hs, signature_eq_ok ht, Except.ok.injEq] at h
  have h := json_inj (floatFree_sortKeys s.floatFree_toData) (floatFree_sortKeys t.floatFree_toData) h
  have h := sortKeysEntries_inj h rfl (by simp [Site.toEntries])
  simp only [Site.toEntries, sortKeysEntries, List.cons.injEq, Prod.mk.injEq, true_and, and_true,
    sortKeys_bool, sortKeys_int, sortKeys_text, Data.bool.injEq, Data.int.injEq, Data.text.injEq] at h
  obtain ⟨h1, h2, h3, h4, h5, h6, h7, h8, h9, h10, h11, h12, h13⟩ := h
  have h1 := sortKeys_texts_inj h1
  have h5 := sortKeys_texts_inj h5
  have h6 := Ssl.sortKeys_inj h6
  have h7 := ReverseProxy.sortKeys_inj h7
  have h8 := Security.sortKeys_inj h8
  obtain ⟨hassets, h9⟩ := Performance.sortKeys_inj h9
  have h10 := Logging.sortKeys_inj h10
  have h11 := Upstream.sortKeys_inj h11
  have h12 := sortKeys_list_map_inj (fun _ _ => Location.sortKeys_inj) h12
  refine ⟨hassets, ?_⟩
  cases s
  cases t
  rw [Site.mk.injEq]
  exact ⟨h1, h2, h3, h4, h5, h6, h7, h8, h9, h10, h11, h12, h13⟩

theorem Site.signature_eq_of_perm {s t : Site} (ht : t.Valid)
    (hperm : s.performance.assetCacheExpiry.Perm t.performance.assetCacheExpiry)
    (heq : s = { t with
      performance := { t.performance with assetCacheExpiry := s.performance.assetCacheExpiry } }) :
    s.signature = t.signature := by
  have hperformance := Performance.sortKeys_withAssets hperm
    ((hperm.map (·.1)).nodup_iff.2 ht.performance.1)
  have hjson : s.toData.sortKeys = t.toData.sortKeys := by
    rw [heq]
    simp only [toData, toEntries, sortKeys, sortKeysEntries] at hperformance ⊢
    rw [hperformance]
  have hintegers : s.integers = t.integers := by rw [heq]; rfl
  by_cases hfew : ∀ n ∈ t.integers, FewDigits n
  · rw [signature_eq_ok hfew, signature_eq_ok (hintegers ▸ hfew), hjson]
  · rw [signature_eq_error hfew, signature_eq_error (hintegers ▸ hfew)]

/-- A site has a signature just if no number in it has too many digits. Valid sites with signatures have the same
one just if they are equal field by field, where the expiries of asset classes are a map. Within one text the code
points count as far as their UTF-16 units tell them apart: a character beyond the first plane is written as the two
surrogates that stand for it. -/
theorem Site.signature_eq_iff {s t : Site} (hs : s.Valid) (ht : t.Valid) :
    ((∃ written, s.signature = .ok written) ↔ ∀ n ∈ s.integers, FewDigits n) ∧
    ((¬∀ n ∈ s.integers, FewDigits n) → s.signature = .error .unwritable) ∧
    ((∀ n ∈ s.integers, FewDigits n) → (∀ n ∈ t.integers, FewDigits n) → (s.signature = t.signature ↔
      (∀ name, s.performance.assetCacheExpiry.lookup name = t.performance.assetCacheExpiry.lookup name) ∧
        s = { t with
          performance := { t.performance with assetCacheExpiry := s.performance.assetCacheExpiry } })) ∧
    ∀ p q : List Nat, (∀ n ∈ p, n < 0x110000) → (∀ n ∈ q, n < 0x110000) →
      (jsonPoints p = jsonPoints q ↔ p.flatMap utf16 = q.flatMap utf16) := by
  refine ⟨exists_signature_iff, signature_eq_error, fun hfs hft => ?_, fun p q => jsonPoints_eq_iff⟩
  rw [← perm_iff_lookup_eq hs.performance.1 ht.performance.1]
  exact ⟨eq_of_signature_eq hfs hft, fun ⟨hperm, heq⟩ => signature_eq_of_perm ht hperm heq⟩

/-- The expiries stand in another order, with a text that has to be escaped; one is another; and a pair of
surrogates is written as the character it stands for. -/
theorem Site.signature_eq_iff_escaped :
    let s : Site := { performance := { assetCacheExpiry := [("css", "\"1d\"\n"), ("js", "😀")] } }
    let t : Site := { performance := { assetCacheExpiry := [("js", "😀"), ("css", "\"1d\"\n")] } }
    let u : Site := { performance := { assetCacheExpiry := [("js", "😀"), ("css", "'1d'\n")] } }
    s.Valid ∧ t.Valid ∧ u.Valid ∧ s.signature = t.signature ∧ s.signature ≠ u.signature ∧
      jsonPoints [0xD83D, 0xDE00] = jsonPoints [0x1F600] := by
  intro s t u
  have hs : s.Valid := by decide
  have ht : t.Valid := by decide
  have hu : u.Valid := by decide
  have hperm : s.performance.assetCacheExpiry.Perm t.performance.assetCacheExpiry := .swap _ _ []
  have hlookup := (perm_iff_lookup_eq hs.performance.1 ht.performance.1).1 hperm
  obtain ⟨-, -, hst, hpoints⟩ := signature_eq_iff hs ht
  have hsu := (signature_eq_iff hs hu).2.2.1
  refine ⟨hs, ht, hu, (hst (by decide) (by decide)).2 ⟨hlookup, rfl⟩, fun h => ?_, ?_⟩
  · have hcss := ((hsu (by decide) (by decide)).1 h).1 "css"
    exact absurd hcss (by decide)
  · exact (hpoints _ _ (by decide) (by decide)).2 rfl

end SiteConf
