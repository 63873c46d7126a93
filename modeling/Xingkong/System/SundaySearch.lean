import Mathlib.Data.List.Infix
import Xingkong.Model.Str

/-!
# The search finds what is there

A shift moves the window to the last place in the pattern of the byte behind the window, that is to
the first place in the reversed pattern. No occurrence lies in between.
-/

namespace Xingkong

open List

theorem decodeRune_ascii {b : UInt8} (h : b < 128) (s : List UInt8) :
    decodeRune (b :: s) = (b.toNat, 1) := by
  have hall : ∀ n : Fin 128, String.utf8EncodeChar (Char.ofNat n) = [UInt8.ofNat n] ∧
      (Char.ofNat n).toNat = n ∧ (Char.ofNat n).utf8Size = 1 := by
    decide
  obtain ⟨hbytes, hrune, hwidth⟩ := hall ⟨b.toNat, h⟩
  have hdec := ByteArray.utf8DecodeChar?_utf8EncodeChar_append (b := s.toByteArray)
    (c := Char.ofNat b.toNat)
  rw [hbytes, UInt8.ofNat_toNat, ← toByteArray_append] at hdec
  rw [decodeRune, singleton_append.symm, hdec]
  simp only [hrune, hwidth]

variable {text pattern : List UInt8} {i k : Nat} {b : UInt8} {offset : Nat → Option Nat}

theorem fillOffset_spec (hascii : ∀ c ∈ pattern, c < 128) :
    fillOffset offset 0 pattern b.toNat =
      if b ∈ pattern then some (pattern.reverse.idxOf b + 1) else offset b.toNat := by
  induction pattern generalizing offset with
  | nil => rfl
  | cons c s ih =>
    obtain ⟨hc, hs⟩ := forall_mem_cons.1 hascii
    rw [fillOffset, decodeRune_ascii hc, reverse_cons]
    refine (ih hs).trans ?_
    by_cases hmem : b ∈ s
    · simp [hmem, idxOf_append_of_mem]
    · by_cases hbc : b = c
      · subst hbc
        simp [hmem, idxOf_append_of_notMem]
      · simp [hmem, hbc, UInt8.toNat_inj]

theorem matched_spec (h : i + pattern.length ≤ text.length) :
    ∃ j, matched text i pattern = some j ∧ (j = pattern.length ↔ pattern <+: text.drop i) := by
  induction pattern generalizing i with
  | nil => exact ⟨0, rfl, iff_of_true rfl nil_prefix⟩
  | cons b s ih =>
    rw [length_cons] at h
    obtain ⟨j, hj, hiff⟩ := ih (i := i + 1) (by omega)
    have hi : i < text.length := by omega
    rw [matched, getElem?_eq_getElem hi, drop_eq_getElem_cons hi, cons_prefix_cons, ← hiff,
      length_cons]
    by_cases hb : text[i] = b
    · exact ⟨j + 1, by simp [hb, hj], by simp [hb]⟩
    · exact ⟨0, by simp [hb], by simp [Ne.symm hb]⟩

/-- No occurrence is skipped: its byte behind the window would be in the pattern, at a place after
the last one. -/
theorem shift_lt (h : pattern <+: text.drop k) (hik : i < k)
    (hb : text[i + pattern.length]? = some b) : i + pattern.reverse.idxOf b < k := by
  by_contra hle
  have hlen := idxOf_le_length (a := b) (l := pattern.reverse)
  rw [length_reverse] at hlen
  have hat := prefix_iff_getElem?.1 h (i + pattern.length - k) (by omega)
  have hbefore : k - i - 1 < pattern.reverse.findIdx (· == b) := by
    show _ < idxOf b _
    omega
  have hne := not_of_lt_findIdx hbefore
  grind

/-- From `i` on, with fuel for every place left. -/
theorem sundayLoop_spec (hne : pattern ≠ [])
    (hoffset : ∀ b : UInt8,
      (offset b.toNat).getD (pattern.length + 1) = pattern.reverse.idxOf b + 1)
    {fuel : Nat} (hi : i ≤ text.length) (hfuel : text.length < fuel + i) :
    ∃ found, sundayLoop text pattern offset fuel i = some found ∧
      (found = true ↔ ∃ k, i ≤ k ∧ pattern <+: text.drop k) := by
  have hend : ∀ {k}, pattern <+: text.drop k → k + pattern.length ≤ text.length := by
    intro k h
    have hpos := length_pos_iff.2 hne
    have hlen := h.length_le
    rw [length_drop] at hlen
    omega
  induction fuel generalizing i with
  | zero => omega
  | succ fuel ih =>
    rw [sundayLoop]
    split
    next hwin =>
      obtain ⟨j, hj, hiff⟩ := matched_spec hwin
      rw [hj, Option.bind_eq_bind, Option.bind_some]
      split
      next hfull => exact ⟨true, rfl, iff_of_true rfl ⟨i, le_rfl, hiff.1 hfull⟩⟩
      next hpart =>
        have hafter : ∀ {k}, i ≤ k → pattern <+: text.drop k → i < k := by
          intro k hk h
          refine lt_of_le_of_ne hk ?_
          rintro rfl
          exact hpart (hiff.2 h)
        split
        next hlt =>
          have hnext := getElem?_eq_getElem hlt
          have hshift := hoffset text[i + pattern.length]
          have hlen := idxOf_le_length (a := text[i + pattern.length]) (l := pattern.reverse)
          rw [length_reverse] at hlen
          obtain ⟨found, hrun, hfound⟩ :=
            ih (i := i + (pattern.reverse.idxOf text[i + pattern.length] + 1)) (by omega) (by omega)
          refine ⟨found, ?_, hfound.trans ⟨?_, ?_⟩⟩
          · rw [hnext, ← hrun, ← hshift]
            cases h : offset text[i + pattern.length].toNat <;> simp [h]
          · rintro ⟨k, hk, h⟩
            exact ⟨k, by omega, h⟩
          · rintro ⟨k, hk, h⟩
            exact ⟨k, shift_lt h (hafter hk h) hnext, h⟩
        next hlast =>
          refine ⟨false, rfl, iff_of_false nofun ?_⟩
          rintro ⟨k, hk, h⟩
          have := hafter hk h
          have := hend h
          omega
    next hwin =>
      refine ⟨false, rfl, iff_of_false nofun ?_⟩
      rintro ⟨k, hk, h⟩
      have := hend h
      omega

/-- **The search ends, reads only what is there and finds exactly the texts that contain the
pattern.** -/
theorem sunday_search_exact (text pattern : List UInt8) (hne : pattern ≠ [])
    (hascii : ∀ b ∈ pattern, b < 128) (fuel : Nat) (hfuel : text.length < fuel) :
    ∃ found, sundaySearch fuel text pattern = some found ∧ (found = true ↔ pattern <:+: text) := by
  have hocc : pattern <:+: text ↔ ∃ k, 0 ≤ k ∧ pattern <+: text.drop k := by
    constructor
    · rintro ⟨pre, post, rfl⟩
      exact ⟨pre.length, Nat.zero_le _, by simp⟩
    · rintro ⟨k, _, h⟩
      exact h.isInfix.trans (drop_suffix k text).isInfix
  rw [hocc]
  refine sundayLoop_spec hne (fun b => ?_) (Nat.zero_le _) hfuel
  rw [fillOffset_spec hascii]
  split
  · rfl
  next hmem =>
    rw [← mem_reverse, ← idxOf_eq_length_iff, length_reverse] at hmem
    rw [hmem]
    rfl

theorem sunday_search_exact_aba : ∃ found, sundaySearch 6 [97, 97, 98, 97, 200] [97, 98, 97] =
    some found ∧ (found = true ↔ ([97, 98, 97] : List UInt8) <:+: [97, 97, 98, 97, 200]) :=
  sunday_search_exact _ _ (by decide) (by simp) 6 (by decide)

end Xingkong
