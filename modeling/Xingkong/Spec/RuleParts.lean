import Xingkong.Spec.ConditionTexts

/-!
# Texts in parts

A group of rules and a list of rules are read the same way: the text is split at a separator, the
pieces are trimmed, and each piece is read on its own. `Part` says what is known of one written
part: no other text that begins like it is read as the same value. For a text that begins like
the joined parts, reading the pieces as the values then means that the pieces are the parts
(`parts_of_pieces`), so that the text is cut at the joints and nowhere else.
-/

namespace Xingkong

open Text TopLevel List

variable {α β : Type}

/-! ## Reading a list of parts -/

theorem readAll_eq_some {read : Text → Except Thrown (Option α)} {parts : List Text} {xs : List α} :
    readAll read parts = .ok (some xs) ↔
      List.Forall₂ (fun part x => read part = .ok (some x)) parts xs := by
  induction parts generalizing xs with
  | nil =>
    constructor
    · intro h
      cases h
      exact .nil
    · intro h
      cases h
      rfl
  | cons part parts ih =>
    rw [readAll]
    constructor
    · intro h
      split at h
      · cases h
      · cases h
      · next a hread =>
        cases hrest : readAll read parts with
        | error e =>
          rw [hrest] at h
          cases h
        | ok rest =>
          rw [hrest] at h
          cases rest with
          | none => cases h
          | some ys =>
            cases h
            exact .cons hread (ih.mp hrest)
    · intro h
      cases h with
      | cons hread hrest =>
        rw [hread]
        rw [ih.mpr hrest]
        rfl

/-! ## Parts and pieces -/

/-- The text `w` is written for `b`, and no other text that begins like it is read as `b`. -/
structure Part (sep : Text) (R : Text → β → Prop) (w : Text) (b : β) : Prop where
  nonempty : w ≠ []
  trimmed : trim w = w
  last : ∀ c ∈ w.getLast?, c ∉ sep
  front : ∀ {q rest : Text}, trim q = q → R q b → q <+: w ++ rest → q = w

variable {sep w front : Text} {R : Text → β → Prop} {b : β} {x : Char}

theorem Part.head (h : Part sep R w b) : ∀ c ∈ w.head?, Text.isSpace c = false :=
  (trim_eq_self_iff.mp h.trimmed).1

theorem blanks_eq_nil {ws s u : Text} (hx : Text.isSpace x = false)
    (hws : ∀ c ∈ ws, Text.isSpace c = true) (h : ws ++ ' ' :: s <+: ' ' :: x :: u) : ws = [] := by
  cases ws with
  | nil => rfl
  | cons a ws =>
    have h1 := (cons_prefix_cons.mp h).2
    cases ws with
    | nil =>
      have h : ' ' = x := (cons_prefix_cons.mp h1).1
      rw [← h] at hx
      exact absurd hx (by decide)
    | cons b ws =>
      have hb : b = x := (cons_prefix_cons.mp h1).1
      rw [← hb, hws b (by simp)] at hx
      cases hx

theorem splitTopLevel_cons {pieces : List Text} (S : Text)
    (hsplit : split parenDepth sep 0 0 S = front :: pieces) (hne : front ≠ [])
    (hhead : ∀ c ∈ front.head?, Text.isSpace c = false) :
    splitTopLevel sep S = trim front :: ((pieces.map trim).filter (! ·.isEmpty)) := by
  have hkeep : (trim front).isEmpty = false := by
    obtain ⟨ws, hws, h⟩ := exists_trim_append hhead
    rw [isEmpty_eq_false_iff]
    intro hnil
    obtain ⟨c, t, rfl⟩ := exists_cons_of_ne_nil hne
    rw [hnil, nil_append] at hws
    have := h c (by rw [← hws]; exact mem_cons_self)
    rw [hhead c rfl] at this
    cases this
  rw [splitTopLevel, hsplit, map_cons, filter_cons, hkeep]
  rfl

section

variable {s' rest S : Text} (hsep : sep = ' ' :: x :: s') (hx : Text.isSpace x = false)
  (hflat : ∀ c ∈ sep, parenDepth c = 0) {bs : List β} {ws : List Text}
include hsep hx hflat

omit hsep hx hflat in
theorem Part.piece (hpart : Part sep R w b) (hne : front ≠ []) (hfront : front <+: w ++ rest)
    (hR : R (trim front) b) :
    ∃ us, front = w ++ us ∧ (∀ c ∈ us, Text.isSpace c = true) ∧ R w b := by
  obtain ⟨a, t, rfl⟩ := exists_cons_of_ne_nil hne
  obtain ⟨y, u, hw⟩ := exists_cons_of_ne_nil hpart.nonempty
  have hay : a = y := by
    rw [hw] at hfront
    exact (cons_prefix_cons.mp hfront).1
  have h : ∀ c ∈ (a :: t).head?, Text.isSpace c = false := by
    rintro c hc
    cases hc
    exact hpart.head a (by rw [hw, hay]; rfl)
  obtain ⟨us, hus, h1⟩ := exists_trim_append h
  have h : trim (a :: t) <+: w ++ rest := by
    refine IsPrefix.trans ⟨us, ?_⟩ hfront
    exact hus.symm
  have h2 : trim (a :: t) = w := hpart.front trim_trim hR h
  rw [h2] at hus hR
  exact ⟨us, hus, h1, hR⟩

omit hsep hx hflat in
theorem Part.head_of_front (hpart : Part sep R w b) (hfront : front <+: w ++ rest) :
    ∀ c ∈ front.head?, Text.isSpace c = false := by
  obtain ⟨y, u, hw⟩ := exists_cons_of_ne_nil hpart.nonempty
  intro c hc
  cases front with
  | nil => cases hc
  | cons a t =>
    obtain rfl : a = c := by simpa using hc
    rw [hw] at hfront
    exact hpart.head a (by rw [hw, (cons_prefix_cons.mp hfront).1]; rfl)

omit hsep hx hflat in
/-- A text without a cut that begins like a part and is read as its value: it is the part, if
no blanks stand between the part and `z`. -/
theorem Part.sealed (hpart : Part sep R w b) {z tail : Text}
    (hS : S ++ z <+: w ++ tail)
    (hend : ∀ us : Text, (∀ c ∈ us, Text.isSpace c = true) → us ++ z <+: tail → us = [])
    (h : cuts parenDepth sep 0 S = false)
    (h1 : List.Forall₂ R (splitTopLevel sep S) [b]) : S = w ∧ R w b := by
  have hSw : S <+: w ++ tail := (prefix_append S z).trans hS
  have hSne : S ≠ [] := by
    rintro rfl
    cases h1
  rw [splitTopLevel_cons _ (split_of_sealed h) hSne (hpart.head_of_front hSw)] at h1
  cases h1 with
  | cons hR _ =>
    obtain ⟨us, rfl, h, hRw⟩ := hpart.piece hSne hSw hR
    have h1 : us = [] := by
      refine hend us h ?_
      simpa only [append_assoc, prefix_append_right_inj] using hS
    rw [h1, append_nil]
    exact ⟨rfl, hRw⟩

omit hx in
/-- A text with a cut that begins like a part, its first piece read as the value of the part: the
piece is the part and blanks, and the other pieces are those of what follows the cut. -/
theorem Part.cut (hpart : Part sep R w b) (hS : S <+: w ++ rest)
    (hcut : cuts parenDepth sep 0 S = true)
    (hread : List.Forall₂ R (splitTopLevel sep S) (b :: bs)) :
    ∃ us S', S = w ++ us ++ sep ++ S' ∧ (∀ c ∈ us, Text.isSpace c = true) ∧
      cuts parenDepth sep 0 (w ++ us) = false ∧ net parenDepth (w ++ us) = 0 ∧ R w b ∧
      List.Forall₂ R (splitTopLevel sep S') bs := by
  have h : sep ≠ [] := by
    rw [hsep]
    exact cons_ne_nil _ _
  obtain ⟨front, S', rfl, hsealed, h1, h1⟩ := exists_split_of_cuts h hflat hcut
  have hfront : front <+: w ++ rest := by
    refine IsPrefix.trans ⟨sep ++ S', ?_⟩ hS
    rw [append_assoc]
  have hfne : front ≠ [] := by
    rintro rfl
    have h := hpart.head_of_front hS ' ' (by rw [hsep]; rfl)
    exact absurd h (by decide)
  rw [splitTopLevel_cons _ h1 hfne (hpart.head_of_front hfront)] at hread
  cases hread with
  | cons hR hread =>
    obtain ⟨us, rfl, h, hRw⟩ := hpart.piece hfne hfront hR
    exact ⟨us, S', rfl, h, hsealed, by omega, hRw, hread⟩

/-- A text that begins like the joined parts and whose pieces are read as their values is the
joined parts, cut at the joints. The text stands before `z`, the parts before `tail`. -/
theorem parts_of_pieces (hparts : List.Forall₂ (Part sep R) ws bs)
    (hne : ws ≠ []) {z tail : Text} (hS : S ++ z <+: join sep ws ++ tail)
    (hend : ∀ us : Text, (∀ c ∈ us, Text.isSpace c = true) → us ++ z <+: tail → us = [])
    (hnosep : ∀ us : Text, (∀ c ∈ us, Text.isSpace c = true) → ¬ us ++ sep <+: tail)
    (hread : List.Forall₂ R (splitTopLevel sep S) bs) :
    S = join sep ws ∧ Joints parenDepth sep ws ∧ List.Forall₂ R ws bs := by
  induction hparts generalizing S with
  | nil => exact absurd rfl hne
  | @cons w b ws bs hpart hparts ih =>
    cases ws with
    | nil =>
      cases hparts
      have hS' : S ++ z <+: w ++ tail := hS
      cases hcut : cuts parenDepth sep 0 S with
      | true =>
        obtain ⟨us, S', rfl, hspace, -⟩ :=
          hpart.cut hsep hflat ((prefix_append S z).trans hS') hcut hread
        simp only [append_assoc, prefix_append_right_inj] at hS'
        rw [← append_assoc] at hS'
        exact absurd ((prefix_append _ _).trans hS') (hnosep us hspace)
      | false =>
        obtain ⟨rfl, hR⟩ := hpart.sealed hS' hend hcut hread
        exact ⟨rfl, hcut, .cons hR .nil⟩
    | cons v ws =>
      have hS' : S ++ z <+: w ++ (sep ++ (join sep (v :: ws) ++ tail)) := by
        simpa only [join_cons_cons, append_assoc] using hS
      cases hcut : cuts parenDepth sep 0 S with
      | true =>
        obtain ⟨us, S', rfl, hspace, hsealed, hdepth, hR, hrest⟩ :=
          hpart.cut hsep hflat ((prefix_append S z).trans hS') hcut hread
        simp only [append_assoc, prefix_append_right_inj] at hS'
        have h : us = [] := by
          generalize join sep (v :: ws) ++ tail = more at hS'
          rw [hsep] at hS'
          exact blanks_eq_nil hx hspace hS'
        subst h
        rw [nil_append, prefix_append_right_inj] at hS'
        rw [append_nil] at hsealed hdepth ⊢
        obtain ⟨rfl, hj, hall⟩ := ih (cons_ne_nil v ws) hS' hrest
        exact ⟨rfl, (joints_cons_cons w v ws).mpr ⟨hsealed, hdepth, hj⟩, .cons hR hall⟩
      | false =>
        -- One piece is not read as two values.
        have hone : (splitTopLevel sep S).length ≤ 1 := by
          rw [splitTopLevel, split_of_sealed hcut]
          exact length_filter_le _ _
        have h := hread.length_eq
        have h1 := hparts.length_eq
        simp only [length_cons] at h h1
        omega

omit hsep hx in
theorem pieces_of_parts (hsepne : sep ≠ []) (h : List.Forall₂ (Part sep R) ws bs)
    (hne : ws ≠ []) (hj : Joints parenDepth sep ws) :
    splitTopLevel sep (join sep ws) = ws := by
  have hall : ∀ w ∈ ws, w ≠ [] ∧ trim w = w ∧ ∀ c ∈ w.getLast?, c ∉ sep := by
    clear hne hj
    induction h with
    | nil => simp
    | cons h _ ih =>
      rw [forall_mem_cons]
      exact ⟨⟨h.nonempty, h.trimmed, h.last⟩, ih⟩
  rw [splitTopLevel, split_join hsepne hflat hne (fun w hw => (hall w hw).2.2) hj,
    map_congr_left fun w hw => (hall w hw).2.1, map_id', filter_eq_self]
  intro w hw
  simpa using (hall w hw).1

end

end Xingkong
