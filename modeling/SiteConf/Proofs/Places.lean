import SiteConf.Cli.Files
import SiteConf.Proofs.Shape

/-!
# What writing leaves in place

A store that keeps the directories of another one leads every path that the other one leads to the same place
(`Store.KeepsDirectories.locate`). Making directories and writing a file keep the directories, so both can be done
again: the directories are there already (`Store.createDirectories_spec`), and the file is there with the text that
was written last (`Store.write_spec`).
-/

namespace SiteConf.Cli.Store

/-! ### What stands at a position -/

theorem contents_eq_text_iff {s : Store} {p : Position} {text : String} :
    s.contents p = some (.text text) ↔ s.files.lookup p = some text := by
  unfold contents
  cases s.files.lookup p <;> simp

theorem contents_eq_directory_iff {s : Store} {p : Position} : s.contents p = some .directory ↔
    s.files.lookup p = none ∧ (p.isBase = true ∨ p ∈ s.directories ∨ ∃ f ∈ s.files, p.isPrefixOf f.1 = true) := by
  unfold contents
  cases s.files.lookup p with
  | some text => simp
  | none =>
    simp only [Bool.or_eq_true, List.any_eq_true, List.contains_iff_mem, or_assoc, true_and]
    split_ifs with h
    · exact iff_of_true rfl h
    · exact iff_of_false not_false h

/-! ### Directories that stay -/

/-- The directories of a store are directories of another. -/
def KeepsDirectories (s t : Store) : Prop := ∀ p, s.contents p = some .directory → t.contents p = some .directory

/-- All that stands in a store stands in another. -/
def Grows (s t : Store) : Prop := ∀ p c, s.contents p = some c → t.contents p = some c

variable {s t u : Store} {path text : String}

theorem Grows.keepsDirectories (h : Grows s t) : KeepsDirectories s t := fun p => h p .directory

theorem Grows.trans (hst : Grows s t) (htu : Grows t u) : Grows s u := fun p c hp => htu p c (hst p c hp)

namespace KeepsDirectories

theorem walk (h : KeepsDirectories s t) {p q : Position} {c : Option Contents} {names : List String}
    (hwalk : s.walk p names = .ok (q, c)) : t.walk p names = .ok (q, t.contents q) := by
  induction names generalizing p with
  | nil =>
    cases hwalk
    rfl
  | cons name names ih =>
    unfold Store.walk at hwalk ⊢
    cases hp : s.contents p with
    | none => simp [hp] at hwalk
    | some c =>
      cases c with
      | text => simp [hp] at hwalk
      | directory =>
        rw [hp] at hwalk
        rw [h p hp]
        dsimp only at hwalk ⊢
        split_ifs at hwalk ⊢ <;> exact ih hwalk

theorem locate (h : KeepsDirectories s t) {q : Position} {c : Option Contents}
    (hlocate : s.locate path = .ok (q, c)) : t.locate path = .ok (q, t.contents q) := by
  unfold Store.locate at hlocate ⊢
  split_ifs at hlocate ⊢
  exact h.walk hlocate

end KeepsDirectories

theorem Grows.walk (h : Grows s t) {p : Position} {names : List String} {r : Position × Option Contents}
    (hwalk : t.walk p names = .ok r) : (∃ r, s.walk p names = .ok r) ∨ s.walk p names = .error .noEntry := by
  induction names generalizing p with
  | nil => exact .inl ⟨_, rfl⟩
  | cons name names ih =>
    unfold Store.walk at hwalk ⊢
    cases hp : s.contents p with
    | none => exact .inr rfl
    | some c =>
      rw [h p c hp] at hwalk
      cases c with
      | text => cases hwalk
      | directory =>
        dsimp only at hwalk ⊢
        split_ifs at hwalk ⊢ <;> exact ih hwalk

theorem Grows.locate (h : Grows s t) {r : Position × Option Contents} (hlocate : t.locate path = .ok r) :
    (∃ r, s.locate path = .ok r) ∨ s.locate path = .error .noEntry := by
  unfold Store.locate at hlocate ⊢
  split_ifs at hlocate ⊢
  exact h.walk hlocate

theorem contents_of_locate {q : Position} {c : Option Contents} (h : s.locate path = .ok (q, c)) :
    s.contents q = c := by
  have hself : KeepsDirectories s s := fun _ => id
  rw [hself.locate h] at h
  cases h
  rfl

/-! ### Making directories -/

theorem grows_directory (s : Store) (q : Position) : Grows s { s with directories := q :: s.directories } := by
  intro p c hp
  cases c with
  | text text =>
    have hlookup : s.files.lookup p = some text := contents_eq_text_iff.1 hp
    exact contents_eq_text_iff.2 hlookup
  | directory =>
    obtain ⟨hlookup, hp⟩ := contents_eq_directory_iff.1 hp
    exact contents_eq_directory_iff.2 ⟨hlookup, hp.imp_right (Or.imp_left (List.mem_cons_of_mem q))⟩

theorem contents_directory {q : Position} (hnone : s.contents q = none) :
    ({ s with directories := q :: s.directories } : Store).contents q = some .directory := by
  refine contents_eq_directory_iff.2 ⟨?_, .inr (.inl List.mem_cons_self)⟩
  cases hlookup : s.files.lookup q with
  | none => rfl
  | some text =>
    rw [contents_eq_text_iff.2 hlookup] at hnone
    cases hnone

theorem createDirectory_spec (h : s.createDirectory path = .ok t) :
    Grows s t ∧ ∃ q, t.locate path = .ok (q, some .directory) := by
  unfold createDirectory at h
  split at h
  case h_1 p hlocate =>
    cases h
    have hnone := contents_of_locate hlocate
    have hgrows := grows_directory s p
    refine ⟨hgrows, p, ?_⟩
    rw [hgrows.keepsDirectories.locate hlocate, contents_directory hnone]
  case h_2 p hlocate =>
    cases h
    exact ⟨fun _ _ => id, p, hlocate⟩
  case h_3 => cases h
  case h_4 => cases h

theorem createDirectory_again (h : s.createDirectory path = .ok t) (hu : KeepsDirectories t u) :
    u.createDirectory path = .ok u := by
  obtain ⟨-, q, hlocate⟩ := createDirectory_spec h
  rw [createDirectory, hu.locate hlocate, hu q (contents_of_locate hlocate)]

theorem createAlong_spec {absolute : Bool} {names : List String} (h : s.createAlong absolute names = .ok t) :
    Grows s t ∧ ∀ u, KeepsDirectories t u → u.createAlong absolute names = .ok u := by
  induction names generalizing s t with
  | nil =>
    cases h
    exact ⟨fun _ _ => id, fun u _ => rfl⟩
  | cons name above ih =>
    -- Whether or not the directories above are made first, the last step makes this one.
    have hmade : ∀ {s' : Store}, s'.createDirectory (joinPath absolute (name :: above).reverse) = .ok t →
        Grows s s' → Grows s t ∧ ∀ u, KeepsDirectories t u → u.createAlong absolute (name :: above) = .ok u := by
      intro s' hmade hgrows
      refine ⟨hgrows.trans (createDirectory_spec hmade).1, fun u hu => ?_⟩
      rw [createAlong, createDirectory_again hmade hu]
    rw [createAlong] at h
    cases hcreate : s.createDirectory (joinPath absolute (name :: above).reverse) with
    | ok t' =>
      rw [hcreate] at h
      cases h
      exact hmade hcreate fun _ _ => id
    | error c =>
      rw [hcreate] at h
      cases c with
      | noEntry =>
        obtain ⟨s', habove, h⟩ := bind_eq_ok_iff.1 h
        cases hcreate' : s'.createDirectory (joinPath absolute (name :: above).reverse) with
        | ok t' =>
          rw [hcreate'] at h
          cases h
          exact hmade hcreate' (ih habove).1
        | error c =>
          rw [hcreate'] at h
          cases h
      | _ => cases h

theorem createDirectories_spec (h : s.createDirectories path = .ok t) :
    Grows s t ∧ ∀ u, KeepsDirectories t u → u.createDirectories path = .ok u :=
  createAlong_spec h

/-! ### Writing -/

theorem contents_put (s : Store) (p : Position) : (s.put p text).contents p = some (.text text) :=
  contents_eq_text_iff.2 List.lookup_cons_self

theorem keepsDirectories_put {p : Position} (h : s.contents p ≠ some .directory) :
    KeepsDirectories s (s.put p text) := by
  intro q hq
  have hne : q ≠ p := fun hqp => h (hqp ▸ hq)
  obtain ⟨hlookup, hq⟩ := contents_eq_directory_iff.1 hq
  refine contents_eq_directory_iff.2 ⟨?_, hq.imp_right (Or.imp_right fun ⟨f, hf, hprefix⟩ => ?_)⟩
  · simp only [put, List.lookup_eq_none_iff, List.mem_cons, forall_eq_or_imp, bne_iff_ne]
    exact ⟨hne, fun f hf => by simpa using List.lookup_eq_none_iff.1 hlookup f (List.mem_of_mem_filter hf)⟩
  · by_cases hfp : f.1 = p
    · exact ⟨(p, text), List.mem_cons_self, hfp ▸ hprefix⟩
    · exact ⟨f, List.mem_cons_of_mem _ (List.mem_filter.2 ⟨hf, by simpa using hfp⟩), hprefix⟩

/-- A file that was written holds its text, and can be written again. -/
theorem write_spec (h : s.write path text = .ok t) : KeepsDirectories s t ∧ t.look path = .ok (.text text) ∧
    ∀ text, ∃ u, t.write path text = .ok u := by
  unfold write at h
  split at h
  case h_1 => cases h
  case h_2 p c hc hlocate =>
    cases h
    have hkeeps : KeepsDirectories s (s.put p text) :=
      keepsDirectories_put fun hp => hc ((contents_of_locate hlocate).symm.trans hp)
    have hthere : (s.put p text).locate path = .ok (p, some (.text text)) := by
      rw [hkeeps.locate hlocate, contents_put]
    exact ⟨hkeeps, by rw [look, hthere], fun text' => ⟨_, by rw [write, hthere]⟩⟩
  case h_3 => cases h

end SiteConf.Cli.Store
