import SiteConf.Data.Json
import SiteConf.Data.Json.Reader
import SiteConf.Proofs.Numbers

/-!
# JSON text determines the data

A text in JSON is read back by `Json.text?`: escapes, surrogate pairs and all (`text?_jsonText`). So
the JSON of data without floats is a code in which no word is the start of another, up to the digits
of a number, and equal JSON comes from equal data (`json_inj`).
-/

namespace SiteConf.Data
open Json

/-! ### Code points -/

theorem toNat_bounds (c : Char) : c.toNat < 0xD800 ∨ (0xDFFF < c.toNat ∧ c.toNat < 0x110000) := by
  exact c.valid

theorem utf16_lt {n u : Nat} (h : n < 0x110000) (hu : u ∈ utf16 n) : u < 0x10000 := by
  unfold utf16 at hu
  split_ifs at hu
  · rwa [List.mem_singleton.1 hu]
  · simp only [List.mem_cons, List.not_mem_nil, or_false] at hu
    omega

theorem joinUnits_utf16 (c : Char) (rest : List Nat) :
    joinUnits (utf16 c.toNat ++ rest) = c :: joinUnits rest := by
  have hc := toNat_bounds c
  unfold utf16
  split_ifs with h
  · have hn : ¬(0xD800 ≤ c.toNat ∧ c.toNat < 0xDC00) := by omega
    cases rest with
    | nil => simp [joinUnits, Char.ofNat_toNat]
    | cons low rest =>
      rw [List.singleton_append, joinUnits, if_neg fun h => hn ⟨h.1, h.2.1⟩, Char.ofNat_toNat]
  · have hb : c.toNat < 0x110000 := by omega
    have hp : 0x10000 + (0xD800 + (c.toNat - 0x10000) / 0x400 - 0xD800) * 0x400 +
        (0xDC00 + (c.toNat - 0x10000) % 0x400 - 0xDC00) = c.toNat := by omega
    rw [List.cons_append, List.singleton_append, joinUnits, if_pos (by omega), hp, Char.ofNat_toNat]

theorem joinUnits_toNat (cs : List Char) : joinUnits ((cs.map Char.toNat).flatMap utf16) = cs := by
  induction cs with
  | nil => rfl
  | cons c cs ih => rw [List.map_cons, List.flatMap_cons, joinUnits_utf16, ih]

/-! ### Hexadecimal digits -/

theorem hexDigit?_digitChar {d : Nat} (h : d < 16) : hexDigit? d.digitChar = some d := by
  have all : ∀ d : Fin 16, hexDigit? d.val.digitChar = some d.val := by decide
  exact all ⟨d, h⟩

theorem hexNumber?_snoc {ds : List Char} {n d : Nat} (h : hexNumber? ds = some n) (hd : d < 16) :
    hexNumber? (ds ++ [d.digitChar]) = some (16 * n + d) := by
  unfold hexNumber? at h ⊢
  rw [List.foldlM_append, h]
  simp [hexDigit?_digitChar hd]

theorem hexNumber?_toDigits (n : Nat) : hexNumber? (Nat.toDigits 16 n) = some n := by
  induction n using Nat.strongRecOn with
  | ind n ih =>
    rw [Nat.toDigits_eq_if (by decide)]
    split_ifs with h
    · simp [hexNumber?, hexDigit?_digitChar h]
    · rw [hexNumber?_snoc (ih (n / 16) (by omega)) (by omega)]
      congr 1
      omega

theorem hexNumber?_hex (width n : Nat) : hexNumber? (hex width n) = some n := by
  rw [hex]
  generalize width - (Nat.toDigits 16 n).length = k
  induction k with
  | zero => exact hexNumber?_toDigits n
  | succ k ih => simpa [List.replicate_succ, hexNumber?, hexDigit?] using ih

theorem length_hex {n : Nat} (h : n < 0x10000) : (hex 4 n).length = 4 := by
  have hl := (Nat.length_toDigits_le_iff (b := 16) (n := n) (k := 4) (by decide) (by decide)).2 h
  simp only [hex, List.length_append, List.length_replicate]
  omega

/-! ### Texts -/

theorem units?_escape {n : Nat} (h : n < 0x10000) (done : List Nat) (rest : List Char) :
    units? done ('\\' :: 'u' :: (hex 4 n ++ rest)) = units? (n :: done) rest := by
  have hn := hexNumber?_hex 4 n
  have hl := length_hex h
  match hex 4 n, hl, hn with
  | [a, b, c, d], _, hn => simp [units?, hn]

theorem units?_plain {c : Char} (hq : c ≠ '"') (hb : c ≠ '\\') (done : List Nat) (rest : List Char) :
    units? done (c :: rest) = units? (c.toNat :: done) rest := by
  rw [units?]
  · exact hq
  · rintro _ _ _ _ _ rfl _; exact hb rfl
  · rintro _ _ rfl _; exact hb rfl

theorem units?_letter {c e : Char} (hu : e ≠ 'u') (he : escaped? e = some c) (done : List Nat)
    (rest : List Char) : units? done ('\\' :: e :: rest) = units? (c.toNat :: done) rest := by
  rw [units?]
  · simp [he]
  · rintro _ _ _ _ _ rfl _; exact hu rfl

theorem units?_jsonUnit {n : Nat} (hn : n < 0x10000) (done : List Nat) (rest : List Char) :
    units? done (jsonUnit n ++ rest) = units? (n :: done) rest := by
  unfold jsonUnit
  split_ifs with h1 h2 h3 h4 h5 h6 h7 h8
  · subst h1
    exact units?_letter (c := '"') (e := '"') (by decide) rfl done rest
  · subst h2
    exact units?_letter (c := '\\') (e := '\\') (by decide) rfl done rest
  · subst h3
    exact units?_letter (c := '\n') (e := 'n') (by decide) rfl done rest
  · subst h4
    exact units?_letter (c := '\r') (e := 'r') (by decide) rfl done rest
  · subst h5
    exact units?_letter (c := '\t') (e := 't') (by decide) rfl done rest
  · subst h6
    exact units?_letter (c := '\x08') (e := 'b') (by decide) rfl done rest
  · subst h7
    exact units?_letter (c := '\x0c') (e := 'f') (by decide) rfl done rest
  · have hvalid : (Char.ofNat n).toNat = n := by
      rw [Char.toNat_ofNat, if_pos (.inl (by omega))]
    have hne : ∀ c : Char, n ≠ c.toNat → Char.ofNat n ≠ c := fun c hc h => hc (by rw [← h, hvalid])
    rw [List.singleton_append, units?_plain (hne '"' h1) (hne '\\' h2), hvalid]
  · exact units?_escape hn done rest

theorem units?_flatMap_jsonUnit {us : List Nat} (h : ∀ u ∈ us, u < 0x10000) (done : List Nat)
    (rest : List Char) :
    units? done (us.flatMap jsonUnit ++ '"' :: rest) = some (done.reverse ++ us, rest) := by
  induction us generalizing done with
  | nil => simp [units?]
  | cons u us ih =>
    rw [List.forall_mem_cons] at h
    rw [List.flatMap_cons, List.append_assoc, units?_jsonUnit h.1, ih h.2]
    simp

theorem units?_jsonPoints {ns : List Nat} (h : ∀ n ∈ ns, n < 0x110000) (rest : List Char) :
    units? [] (jsonPoints ns ++ '"' :: rest) = some (ns.flatMap utf16, rest) := by
  refine units?_flatMap_jsonUnit (fun u hu => ?_) [] rest
  obtain ⟨n, hn, hu⟩ := List.mem_flatMap.1 hu
  exact utf16_lt (h n hn) hu

/-- Code points are confused just if their units are the same, such as a pair of surrogates and the character that
the pair stands for. -/
theorem jsonPoints_eq_iff {p q : List Nat} (hp : ∀ n ∈ p, n < 0x110000) (hq : ∀ n ∈ q, n < 0x110000) :
    jsonPoints p = jsonPoints q ↔ p.flatMap utf16 = q.flatMap utf16 := by
  constructor
  · intro h
    have hread := units?_jsonPoints hp []
    rw [h, units?_jsonPoints hq] at hread
    exact (Prod.mk.inj (Option.some.inj hread)).1.symm
  · intro h
    rw [jsonPoints, h, jsonPoints]

theorem text?_jsonText (s : String) (rest : List Char) :
    ∃ cs, (jsonText s).toList ++ rest = '"' :: cs ∧ text? cs = some (s, rest) := by
  have hpoints : ∀ n ∈ s.toList.map Char.toNat, n < 0x110000 := by
    intro n hn
    obtain ⟨c, -, rfl⟩ := List.mem_map.1 hn
    have hc := toNat_bounds c
    omega
  refine ⟨jsonPoints (s.toList.map Char.toNat) ++ '"' :: rest, ?_, ?_⟩
  · simp [jsonText]
  · rw [text?, units?_jsonPoints hpoints]
    show some (String.ofList (joinUnits _), rest) = _
    rw [joinUnits_toNat, String.ofList_toList]

theorem jsonText_append_inj {s t : String} {r r' : List Char}
    (h : (jsonText s).toList ++ r = (jsonText t).toList ++ r') : s = t ∧ r = r' := by
  obtain ⟨cs, h1, h2⟩ := text?_jsonText s r
  obtain ⟨cs', h1', h2'⟩ := text?_jsonText t r'
  rw [h1, h1', List.cons.injEq] at h
  rw [h.2, h2'] at h2
  simpa [eq_comm] using h2

/-! ### Numbers -/

/-- No digit stands at the start of the text. -/
def Stops (cs : List Char) : Prop := cs.takeWhile Char.isDigit = []

theorem stops_cons {c : Char} (h : c.isDigit = false) (cs : List Char) : Stops (c :: cs) := by
  simp [Stops, h]

theorem toDigits_append_inj {m n : Nat} {r r' : List Char} (hr : Stops r) (hr' : Stops r')
    (h : Nat.toDigits 10 m ++ r = Nat.toDigits 10 n ++ r') : m = n ∧ r = r' := by
  have hd : ∀ k : Nat, ∀ c ∈ Nat.toDigits 10 k, c.isDigit = true := fun k c hc =>
    Nat.isDigit_of_mem_toDigits (by omega) (by omega) hc
  have ht := congrArg (List.takeWhile Char.isDigit) h
  rw [List.takeWhile_append_of_pos (hd m), List.takeWhile_append_of_pos (hd n), hr, hr', List.append_nil,
    List.append_nil] at ht
  have hv := congrArg Text.digitsValue ht
  rw [Text.digitsValue_toDigits, Text.digitsValue_toDigits] at hv
  subst hv
  exact ⟨rfl, List.append_cancel_left h⟩

theorem int_append_inj {m n : Int} {r r' : List Char} (hr : Stops r) (hr' : Stops r')
    (h : (toString m).toList ++ r = (toString n).toList ++ r') : m = n ∧ r = r' := by
  have hne : ∀ (k : Nat) (s s' : List Char), Nat.toDigits 10 k ++ s ≠ '-' :: s' := by
    intro k s s' e
    obtain ⟨d, ds, hds⟩ := List.exists_cons_of_ne_nil (Nat.toDigits_ne_nil (n := k) (b := 10))
    have hd : d.isDigit = true :=
      Nat.isDigit_of_mem_toDigits (n := k) (b := 10) (by omega) (by omega) (by simp [hds])
    rw [hds, List.cons_append, List.cons.injEq] at e
    rw [e.1] at hd
    exact absurd hd (by decide)
  rw [toList_toString_int, toList_toString_int] at h
  split_ifs at h with hm hn hn
  · simp only [List.cons_append, List.cons.injEq, true_and] at h
    obtain ⟨he, hr⟩ := toDigits_append_inj hr hr' h
    exact ⟨by omega, hr⟩
  · exact absurd h.symm (hne _ _ _)
  · exact absurd h (hne _ _ _)
  · obtain ⟨he, hr⟩ := toDigits_append_inj hr hr' h
    exact ⟨by omega, hr⟩

/-! ### Data -/

mutual
/-- No number of the data is a float. -/
def FloatFree : Data → Prop
  | float _ => False
  | list items => ItemsFloatFree items
  | map entries => EntriesFloatFree entries
  | _ => True

def ItemsFloatFree : List Data → Prop
  | [] => True
  | d :: rest => FloatFree d ∧ ItemsFloatFree rest

def EntriesFloatFree : List (String × Data) → Prop
  | [] => True
  | (_, d) :: rest => FloatFree d ∧ EntriesFloatFree rest
end

theorem itemsFloatFree_iff {ds : List Data} : ItemsFloatFree ds ↔ ∀ d ∈ ds, FloatFree d := by
  induction ds with
  | nil => simp [ItemsFloatFree]
  | cons d ds ih => simp [ItemsFloatFree, ih]

theorem entriesFloatFree_iff {es : List (String × Data)} :
    EntriesFloatFree es ↔ ∀ e ∈ es, FloatFree e.2 := by
  induction es with
  | nil => simp [EntriesFloatFree]
  | cons e es ih => simp [EntriesFloatFree, ih]

theorem jsonItems_eq_map (ds : List Data) : jsonItems ds = ds.map json := by
  induction ds with
  | nil => rfl
  | cons d ds ih => simp [jsonItems, ih]

theorem jsonEntries_eq_map (es : List (String × Data)) :
    jsonEntries es = es.map fun e => jsonText e.1 ++ ": " ++ json e.2 := by
  induction es with
  | nil => rfl
  | cons e es ih => simp [jsonEntries, ih]

/-- The kind of data whose JSON starts with a character. -/
def kindAt (c : Char) : String :=
  if c = 'n' then kind null
  else if c = 't' ∨ c = 'f' then kind (bool true)
  else if c = '"' then kind (text "")
  else if c = '[' then kind (list [])
  else if c = '\x7b' then kind (map [])
  else kind (int 0)

theorem kindAt_digit {c : Char} (h : c.isDigit = true) : kindAt c = kind (int 0) := by
  unfold kindAt
  split_ifs with h1 h2 h3 h4 h5
  · subst h1; exact absurd h (by decide)
  · rcases h2 with rfl | rfl <;> exact absurd h (by decide)
  · subst h3; exact absurd h (by decide)
  · subst h4; exact absurd h (by decide)
  · subst h5; exact absurd h (by decide)
  · rfl

/-- JSON is never empty, and its first character tells the kind of the data. -/
theorem head_json {d : Data} (h : FloatFree d) : ∃ c cs, (json d).toList = c :: cs ∧ kindAt c = d.kind := by
  cases d with
  | null => exact ⟨'n', _, rfl, rfl⟩
  | bool b => cases b with
    | false => exact ⟨'f', _, rfl, rfl⟩
    | true => exact ⟨'t', _, rfl, rfl⟩
  | int n =>
    show ∃ c cs, (toString n).toList = c :: cs ∧ kindAt c = kind (int 0)
    rw [toList_toString_int]
    split_ifs
    · exact ⟨'-', _, rfl, rfl⟩
    · obtain ⟨c, cs, hc⟩ := List.exists_cons_of_ne_nil (Nat.toDigits_ne_nil (n := n.natAbs) (b := 10))
      refine ⟨c, cs, hc, kindAt_digit ?_⟩
      exact Nat.isDigit_of_mem_toDigits (n := n.natAbs) (b := 10) (by omega) (by omega) (by simp [hc])
  | float x => exact absurd h (by simp [FloatFree])
  | text s => exact ⟨'"', jsonPoints (s.toList.map Char.toNat) ++ ['"'], by simp [json, jsonAtom, jsonText], rfl⟩
  | list items =>
    exact ⟨'[', (Text.joinWith ", " (jsonItems items)).toList ++ [']'], by simp [json], rfl⟩
  | map entries =>
    exact ⟨'\x7b', (Text.joinWith ", " (jsonEntries entries)).toList ++ ['\x7d'], by simp [json], rfl⟩

theorem kind_eq_of_append {d e : Data} {r r' : List Char} (hd : FloatFree d) (he : FloatFree e)
    (h : (json d).toList ++ r = (json e).toList ++ r') : d.kind = e.kind := by
  obtain ⟨c, cs, h1, h2⟩ := head_json hd
  obtain ⟨c', cs', h1', h2'⟩ := head_json he
  rw [h1, h1', List.cons_append, List.cons_append, List.cons.injEq] at h
  rw [← h2, ← h2', h.1]

/-- What follows the first part of a joined text. -/
def tailText {α : Type} (code : α → String) (close : Char) (r : List Char) : List α → List Char
  | [] => close :: r
  | x :: xs => ',' :: ' ' :: ((Text.joinWith ", " ((x :: xs).map code)).toList ++ close :: r)

section Joined
variable {α : Type} (code : α → String) {close : Char}

theorem joinWith_cons_append (x : α) (xs : List α) (r : List Char) :
    (Text.joinWith ", " ((x :: xs).map code)).toList ++ close :: r =
      (code x).toList ++ tailText code close r xs := by
  cases xs with
  | nil => rfl
  | cons y xs => simp [Text.joinWith_cons_cons, tailText]

theorem stops_tailText (hc : close.isDigit = false) (xs : List α) (r : List Char) :
    Stops (tailText code close r xs) := by
  cases xs with
  | nil => exact stops_cons hc r
  | cons => exact stops_cons (by decide) _

theorem joinWith_cons_ne_close {x : α} (hx : (code x).toList ≠ [] ∧ (code x).toList.head? ≠ some close)
    (xs : List α) (r r' : List Char) :
    (Text.joinWith ", " ((x :: xs).map code)).toList ++ close :: r ≠ close :: r' := by
  rw [joinWith_cons_append]
  intro e
  cases hcx : (code x).toList with
  | nil => exact hx.1 hcx
  | cons c cs =>
    rw [hcx, List.cons_append, List.cons.injEq] at e
    exact hx.2 (by rw [hcx, e.1]; rfl)

/-- Joined texts are told apart if their parts are, where a comma or the closing bracket follows. -/
theorem joinWith_append_inj (hc : close.isDigit = false) (hcomma : close ≠ ',') {xs ys : List α}
    (hx : ∀ x ∈ xs, (code x).toList ≠ [] ∧ (code x).toList.head? ≠ some close)
    (hy : ∀ y ∈ ys, (code y).toList ≠ [] ∧ (code y).toList.head? ≠ some close)
    (hcode : ∀ x ∈ xs, ∀ y ∈ ys, ∀ r r', Stops r → Stops r' →
      (code x).toList ++ r = (code y).toList ++ r' → x = y ∧ r = r') {r r' : List Char}
    (h : (Text.joinWith ", " (xs.map code)).toList ++ close :: r =
      (Text.joinWith ", " (ys.map code)).toList ++ close :: r') : xs = ys ∧ r = r' := by
  induction xs generalizing ys with
  | nil =>
    cases ys with
    | nil => exact ⟨rfl, by simpa using h⟩
    | cons y ys => exact absurd h.symm (joinWith_cons_ne_close code (hy y (by simp)) ys r' r)
  | cons x xs ih =>
    cases ys with
    | nil => exact absurd h (joinWith_cons_ne_close code (hx x (by simp)) xs r r')
    | cons y ys =>
      rw [joinWith_cons_append, joinWith_cons_append] at h
      obtain ⟨rfl, htail⟩ := hcode x (by simp) y (by simp) _ _ (stops_tailText code hc xs r)
        (stops_tailText code hc ys r') h
      -- the lists go on alike, since the closing bracket is no comma
      cases xs with
      | nil =>
        cases ys with
        | nil => exact ⟨rfl, (List.cons.inj htail).2⟩
        | cons => exact absurd (List.cons.inj htail).1 hcomma
      | cons x' xs =>
        cases ys with
        | nil => exact absurd (List.cons.inj htail).1.symm hcomma
        | cons y' ys =>
          have htexts := (List.cons.inj (List.cons.inj htail).2).2
          obtain ⟨hlists, rfl⟩ := ih (fun z hz => hx z (by simp [hz])) (fun z hz => hy z (by simp [hz]))
            (fun z hz w hw => hcode z (by simp [hz]) w (by simp [hw])) htexts
          exact ⟨by rw [hlists], rfl⟩

end Joined

/-- JSON of the data, before a text that goes on with no digit, is not JSON of other data. -/
def Codes (d : Data) : Prop :=
  FloatFree d → ∀ e, FloatFree e → ∀ r r', Stops r → Stops r' →
    (json d).toList ++ r = (json e).toList ++ r' → d = e ∧ r = r'

theorem head_json_ne {d : Data} (h : FloatFree d) :
    (json d).toList ≠ [] ∧ (json d).toList.head? ≠ some ']' := by
  obtain ⟨c, cs, hcs, hk⟩ := head_json h
  rw [hcs]
  refine ⟨by simp, ?_⟩
  rintro ⟨⟩
  -- a bracket would stand at the start of a number, which has a digit or a sign there
  cases d with
  | int n =>
    rw [show json (.int n) = toString n from rfl, toList_toString_int] at hcs
    split_ifs at hcs
    · simp at hcs
    · have hd : (']' : Char).isDigit = true :=
        Nat.isDigit_of_mem_toDigits (n := n.natAbs) (b := 10) (by omega) (by omega) (by simp [hcs])
      exact absurd hd (by decide)
  | _ => exact absurd hk (by simp [kindAt, kind])

theorem codes_list {xs : List Data} (ih : ∀ x ∈ xs, Codes x) : Codes (.list xs) := by
  intro hd e he r r' hr hr' h
  have hk := kind_eq_of_append hd he h
  cases e with
  | list ys =>
    rw [FloatFree, itemsFloatFree_iff] at hd he
    simp only [json, jsonItems_eq_map, String.toList_append, List.append_assoc] at h
    have h' := (List.cons.inj h).2
    obtain ⟨rfl, rfl⟩ := joinWith_append_inj json (by decide) (by decide)
      (fun x hx => head_json_ne (hd x hx)) (fun y hy => head_json_ne (he y hy))
      (fun x hx y hy => ih x hx (hd x hx) y (he y hy)) h'
    exact ⟨rfl, rfl⟩
  | _ => simp [kind] at hk

theorem codes_map {xs : List (String × Data)} (ih : ∀ x ∈ xs, Codes x.2) : Codes (.map xs) := by
  intro hd e he r r' hr hr' h
  have hk := kind_eq_of_append hd he h
  cases e with
  | map ys =>
    rw [FloatFree, entriesFloatFree_iff] at hd he
    simp only [json, jsonEntries_eq_map, String.toList_append, List.append_assoc] at h
    have h' := (List.cons.inj h).2
    have hhead : ∀ x : String × Data, (jsonText x.1 ++ ": " ++ json x.2).toList ≠ [] ∧
        (jsonText x.1 ++ ": " ++ json x.2).toList.head? ≠ some '\x7d' := by
      intro x
      simp [jsonText]
    obtain ⟨rfl, rfl⟩ := joinWith_append_inj _ (by decide) (by decide)
      (fun x _ => hhead x) (fun y _ => hhead y)
      (fun x hx y hy r r' hr hr' h => by
        simp only [String.toList_append, List.append_assoc] at h
        obtain ⟨hkey, h⟩ := jsonText_append_inj h
        have h := (List.cons.inj (List.cons.inj h).2).2
        obtain ⟨hval, hrest⟩ := ih x hx (hd x hx) y.2 (he y hy) r r' hr hr' h
        exact ⟨Prod.ext hkey hval, hrest⟩) h'
    exact ⟨rfl, rfl⟩
  | _ => simp [kind] at hk

theorem codes_atom {d : Data} (hl : ∀ items, d ≠ .list items) (hm : ∀ entries, d ≠ .map entries) :
    Codes d := by
  intro hd e he r r' hr hr' h
  have hk := kind_eq_of_append hd he h
  cases d with
  | null => cases e with
    | null => exact ⟨rfl, List.append_cancel_left h⟩
    | _ => simp [kind] at hk
  | bool b => cases e with
    | bool b' => cases b <;> cases b' <;> simp_all [json, jsonAtom]
    | _ => simp [kind] at hk
  | int n => cases e with
    | int n' =>
      obtain ⟨rfl, hr⟩ := int_append_inj hr hr' h
      exact ⟨rfl, hr⟩
    | _ => simp [kind] at hk
  | float x => exact absurd hd (by simp [FloatFree])
  | text s => cases e with
    | text s' =>
      obtain ⟨rfl, hr⟩ := jsonText_append_inj h
      exact ⟨rfl, hr⟩
    | _ => simp [kind] at hk
  | list items => exact absurd rfl (hl items)
  | map entries => exact absurd rfl (hm entries)

mutual
theorem codes : ∀ d : Data, Codes d
  | .list xs => codes_list (codes_items xs)
  | .map es => codes_map (codes_entries es)
  | .null => codes_atom (by simp) (by simp)
  | .bool _ => codes_atom (by simp) (by simp)
  | .int _ => codes_atom (by simp) (by simp)
  | .float _ => codes_atom (by simp) (by simp)
  | .text _ => codes_atom (by simp) (by simp)

theorem codes_items : ∀ xs : List Data, ∀ x ∈ xs, Codes x
  | [] => by simp
  | y :: ys => List.forall_mem_cons.2 ⟨codes y, codes_items ys⟩

theorem codes_entries : ∀ es : List (String × Data), ∀ e ∈ es, Codes e.2
  | [] => by simp
  | (_, y) :: ys => List.forall_mem_cons.2 ⟨codes y, codes_entries ys⟩
end

/-- Data without floats is determined by its JSON. -/
theorem json_inj {d e : Data} (hd : FloatFree d) (he : FloatFree e) (h : d.json = e.json) : d = e :=
  (codes d hd e he [] [] rfl rfl (by rw [h])).1

end SiteConf.Data
