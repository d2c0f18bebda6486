import SiteConf.Proofs.Accepted

/-!
# Balanced braces

A text without syntax errors closes no more blocks than it opens, in any part of it at the start, but it can hold
more opening braces than closing ones. The others are just the braces that do not stand directly after a word:
they start no block, and are skipped without an error (`Tree.ofText_braces`).
-/

namespace SiteConf
open Lexeme

/-- The opening braces that do not stand directly after a word. -/
def loose (after : Bool) : List Lexeme → Nat
  | [] => 0
  | l :: ls => (if after = false ∧ l = .blockOpen then 1 else 0) + loose l.isWord ls

theorem count_blockOpen (after : Bool) (ls : List Lexeme) : ls.count .blockOpen = opened after ls + loose after ls := by
  induction ls generalizing after with
  | nil => rfl
  | cons l ls ih =>
    rw [List.count_cons, ih l.isWord, opened, loose]
    by_cases hl : l = .blockOpen <;> cases after <;> simp [hl] <;> omega

/-- A word stands directly before every opening brace. `after` says whether one stands before the list. -/
def Attached (after : Bool) (ls : List Lexeme) : Prop :=
  ∀ before rest, ls = before ++ .blockOpen :: rest → before.getLast?.elim after isWord = true

theorem attached_nil (after : Bool) : Attached after [] := by
  intro before rest h
  simp at h

theorem attached_cons (after : Bool) (l : Lexeme) (ls : List Lexeme) :
    Attached after (l :: ls) ↔ (l = .blockOpen → after = true) ∧ Attached l.isWord ls := by
  have hlast : ∀ before : List Lexeme,
      (l :: before).getLast?.elim after isWord = before.getLast?.elim l.isWord isWord := by
    intro before
    rw [List.getLast?_cons]
    cases before.getLast? <;> rfl
  constructor
  · intro h
    refine ⟨fun hl => h [] ls (by rw [hl, List.nil_append]), fun before rest hls => ?_⟩
    rw [← hlast]
    exact h (l :: before) rest (by rw [hls, List.cons_append])
  · rintro ⟨hl, h⟩ before rest hls
    cases before with
    | nil => exact hl (List.cons.inj hls).1
    | cons x before =>
      obtain ⟨rfl, hrest⟩ := List.cons.inj hls
      rw [hlast]
      exact h before rest hrest

theorem loose_eq_zero_iff (after : Bool) (ls : List Lexeme) : loose after ls = 0 ↔ Attached after ls := by
  induction ls generalizing after with
  | nil => exact ⟨fun _ => attached_nil after, fun _ => rfl⟩
  | cons l ls ih =>
    rw [attached_cons, ← ih, loose, Nat.add_eq_zero_iff]
    cases after <;> simp

namespace Tree

/-- A text without syntax errors holds at least as many opening braces as closing ones, and in any part of it at
the start too. It holds as many of both just if a word stands directly before every opening brace. -/
theorem ofText_braces (text : String) (h : (ofText text).errors = []) :
    let ls := (tokenize text).map Token.lexeme
    (∀ start, start <+: ls → start.count .blockClose ≤ start.count .blockOpen) ∧
      (ls.count .blockOpen = ls.count .blockClose ↔ Attached false ls) := by
  intro ls
  obtain ⟨hstart, htotal⟩ := (blocksClose_iff_nests ls).2 ((errors_build_eq_nil_iff [] [] (tokenize text)).1 h).2
  unfold closed at hstart htotal
  refine ⟨fun start hs => ?_, ?_⟩
  · rw [count_blockOpen false start]
    exact Nat.le_add_right_of_le (hstart start hs)
  · rw [count_blockOpen false ls, htotal, ← loose_eq_zero_iff]
    omega

/-- A text with a brace that is skipped. -/
theorem ofText_braces_skipped :
    let text := "server \x7b\n    \x7b\n    listen 80;\n\x7d\n"
    (ofText text).errors = [] ∧
      let ls := (tokenize text).map Token.lexeme
      (∀ start, start <+: ls → start.count .blockClose ≤ start.count .blockOpen) ∧
        (ls.count .blockOpen = ls.count .blockClose ↔ Attached false ls) := by
  intro text
  have h : (ofText text).errors = [] := by decide +kernel
  exact ⟨h, ofText_braces text h⟩

end Tree
end SiteConf
