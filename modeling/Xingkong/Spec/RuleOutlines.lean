import Xingkong.Spec.ConditionTexts

/-!
# The outline of a condition

Where the text of a condition is cut depends on the texts the user entered and on the parentheses
around them, not on the words between. The outline of a condition keeps just these: its name and
its value in quotes, in the parentheses and with the ` && ` the written text has. Both are read
alike (`written_alike`), for any separator and for any way to count depth that only looks at
parentheses.
-/

namespace Xingkong

open Text TopLevel JsonString List

def nameOutline (name : Text) : Text := callText [] name

/-- What is left of the text of a condition without the words between the user's texts. -/
def RequestCondition.outline : RequestCondition → Text
  | .time _ tz m _ _ _ => if m = .range then nameOutline tz ++ nameOutline tz else nameOutline tz
  | .field source p m v =>
    let name := nameOutline p
    let value := '"' :: (v ++ ['"'])
    match m with
    | .exists => name
    | .contains =>
      let has := "(".toList ++ (name ++ (value ++ ")".toList))
      match source with
      | .header => has
      | .param => name ++ (" && ".toList ++ has)
    | .gt | .gte | .lt | .lte => name ++ (" && ".toList ++ name)
    | _ => name ++ value

open RequestCondition (isRange written outline)

def Quiet (t : Text) : Prop := ∀ z ∈ t, z ∉ "()&*|".toList

instance (t : Text) : Decidable (Quiet t) := inferInstanceAs (Decidable (∀ z ∈ t, _))

theorem Quiet.append {t u : Text} (ht : Quiet t) (hu : Quiet u) : Quiet (t ++ u) := fun z hz =>
  (mem_append.mp hz).elim (ht z) (hu z)

theorem quiet_of_number {d : Text} (h : IsNumber d) : Quiet d := fun z hz hm =>
  (isNumberChar_ne (h.2 z hz)).2.1
    ((by decide : ∀ z ∈ "()&*|".toList, z ∈ " \"()[&*|n".toList) z hm)

/-- A separator with a mark of its own, and a depth that only looks at parentheses. -/
structure Marked (δ : Char → Int) (sep : Text) (x : Char) : Prop where
  depth : ∀ c, c ≠ '(' → c ≠ ')' → δ c = 0
  mem : x ∈ sep
  letters : ∀ c ∈ sep, c ∈ " &*|".toList
  mark : x ∈ "&*|".toList

section

variable {δ : Char → Int} {sep : Text} {x : Char}

theorem Marked.ne_nil (h : Marked δ sep x) : sep ≠ [] := ne_nil_of_mem h.mem

variable {t u v : Text}

theorem Marked.flat (h : Marked δ sep x) (ht : Quiet t) : ∀ c ∈ t, δ c = 0 := by
  intro c hc
  refine h.depth c ?_ ?_
  · rintro rfl
    exact ht _ hc (by decide)
  · rintro rfl
    exact ht _ hc (by decide)

theorem isPrefixOf_escape {s : Text}
    (hs : ∀ c ∈ s, plain c = true ∧ c ∉ escapeLetters) :
    s.isPrefixOf (escape t) = s.isPrefixOf t := by
  induction s generalizing t with
  | nil => simp
  | cons a s ih =>
    rw [forall_mem_cons] at hs
    cases t with
    | nil => rfl
    | cons c t =>
      rw [escape_cons]
      cases hp : plain c with
      | true =>
        rw [escapeChar_of_plain hp, singleton_append, isPrefixOf_cons_cons,
          isPrefixOf_cons_cons, ih hs.2]
      | false =>
        have hac : a ≠ c := by
          rintro rfl
          rw [hs.1.1] at hp
          cases hp
        have h : a ≠ '\\' := by
          rintro rfl
          exact absurd hs.1.1 (by decide)
        obtain ⟨u, hu⟩ : ∃ u, escapeChar c = '\\' :: u :=
          ⟨_, by rw [escapeChar, if_neg (by simp [hp])]⟩
        rw [hu, cons_append, isPrefixOf_cons_cons, isPrefixOf_cons_cons,
          beq_false_of_ne hac, beq_false_of_ne h, Bool.false_and, Bool.false_and]

variable (hk : Marked δ sep x)
include hk

theorem apart_of_last (h : t.getLast?.any (fun c => !" &*|".toList.contains c) = true) :
    Apart sep t u := by
  refine .inl fun c hc hsep => ?_
  have := hk.letters c hsep
  simp_all

theorem apart_of_head (h : u.head?.any (fun c => !" &*|".toList.contains c) = true) :
    Apart sep t u := by
  refine .inr fun c hc hsep => ?_
  have := hk.letters c hsep
  simp_all

theorem separator_plain {c : Char} (hc : c ∈ sep) :
    plain c = true ∧ c ∉ escapeLetters :=
  (by decide : ∀ c ∈ " &*|".toList, plain c = true ∧ c ∉ escapeLetters) c
    (hk.letters c hc)

theorem alike_escape (t : Text) : Alike δ sep (escape t) t := by
  induction t with
  | nil => exact .refl []
  | cons c t ih =>
    rw [escape_cons]
    cases hp : plain c with
    | true =>
      have h := isPrefixOf_escape (t := c :: t) fun c hc => separator_plain hk hc
      rw [escape_cons, escapeChar_of_plain hp, singleton_append] at h
      rw [escapeChar_of_plain hp, singleton_append]
      refine ⟨by rw [net_cons, net_cons, ih.net_eq], fun d => ?_⟩
      rw [cuts, cuts, h, ih.cuts_eq]
    | false =>
      -- The escape and the character it stands for are both passed over.
      have hlt : ∀ y ∈ escapeLetters, y ≠ '(' ∧ y ≠ ')' := by decide
      have hescape : Alike δ sep (escapeChar c ++ escape t)
          (escape t) := by
        refine alike_skip hk.ne_nil (fun z hz => ?_) _
        rcases mem_escapeChar hz with ⟨-, h⟩ | ⟨-, h, -⟩
        · rw [hp] at h
          cases h
        · exact ⟨fun hm => (separator_plain hk hm).2 h, hk.depth z (hlt z h).1 (hlt z h).2⟩
      have hchar : Alike δ sep ([c] ++ t) t := by
        refine alike_skip hk.ne_nil (fun z hz => ?_) _
        obtain rfl := mem_singleton.mp hz
        refine ⟨fun hm => ?_, hk.depth z ?_ ?_⟩
        · rw [(separator_plain hk hm).1] at hp
          cases hp
        · rintro rfl
          exact absurd hp (by decide)
        · rintro rfl
          exact absurd hp (by decide)
      exact (hescape.trans ih).trans hchar.symm

/-! ## Pieces of a text -/

theorem Alike.quoted {t' : Text} (ht : Alike δ sep t t') (hu : Alike δ sep u v) :
    Alike δ sep ('"' :: (t ++ '"' :: u)) ('"' :: (t' ++ '"' :: v)) := by
  have hend : Alike δ sep (['"'] ++ u) (['"'] ++ v) :=
    (Alike.refl _).append hu (apart_of_last hk rfl) (apart_of_last hk rfl)
  have h := ht.append hend (apart_of_head hk rfl) (apart_of_head hk rfl)
  exact (Alike.refl ['"']).append h (apart_of_last hk rfl) (apart_of_last hk rfl)

theorem alike_quiet (ht : Quiet t) (hu : Quiet u) : Alike δ sep t u := by
  have hall : ∀ z ∈ "&*|".toList, z ∈ "()&*|".toList := by decide
  refine alike_of_not_mem hk.mem (fun h => ht x h (hall x hk.mark))
    (fun h => hu x h (hall x hk.mark)) ?_
  rw [net_of_flat (hk.flat ht), net_of_flat (hk.flat hu)]

theorem alike_call {name : Text} (h : Quiet name) (p : Text) (hu : Alike δ sep u v) :
    Alike δ sep (callText name p ++ u) (nameOutline p ++ v) := by
  have hopen : Alike δ sep (name ++ "(".toList) ([] ++ "(".toList) :=
    (alike_quiet hk h (by decide)).append (Alike.refl _)
      (apart_of_head hk (by decide)) (apart_of_head hk (by decide))
  have hend : Alike δ sep (")".toList ++ u) (")".toList ++ v) :=
    (Alike.refl _).append hu (apart_of_last hk (by decide)) (apart_of_last hk (by decide))
  have h := Alike.quoted hk (Alike.refl p) hend
  have := hopen.append h (apart_of_head hk rfl) (apart_of_head hk rfl)
  simpa [callText, nameOutline] using this

theorem alike_value {fixed : Text} (h : Quiet fixed) (t : Text) (hu : Alike δ sep u v) :
    Alike δ sep (fixed ++ (quote t ++ u)) ('"' :: (t ++ '"' :: v)) := by
  have h1 := Alike.quoted hk (alike_escape hk t) hu
  have := (alike_quiet hk h (by decide : Quiet [])).append h1
    (apart_of_head hk rfl) (apart_of_head hk rfl)
  simpa [quote] using this

theorem alike_range (hbar : x ≠ '|') (f : TimeFunc) (tz : Text) {a b : Text} (ha : IsNumber a)
    (hb : IsNumber b) :
    Alike δ sep (rangeText f tz a b) (nameOutline tz ++ nameOutline tz) := by
  have hname : Quiet f.name := by cases f <;> decide
  have hend : Alike δ sep (callText f.name tz ++ (" < ".toList ++ b)) (nameOutline tz ++ []) :=
    alike_call hk hname tz
      (alike_quiet hk (.append (by decide) (quiet_of_number hb)) (by decide))
  have hbars : Alike δ sep (" >= ".toList ++ (a ++ " || ".toList)) [] := by
    have hmem : ∀ {z : Char}, z ∈ " >= ".toList ++ (a ++ " || ".toList) →
        z ∈ "()&*|".toList → z = '|' := fun {z} hz hm => by
      rcases List.mem_append.mp hz with h | h
      · exact absurd hm ((by decide : ∀ z ∈ " >= ".toList, z ∉ "()&*|".toList) z h)
      · rcases List.mem_append.mp h with h | h
        · exact absurd hm (quiet_of_number ha z h)
        · exact (by decide : ∀ z ∈ " || ".toList, z ∈ "()&*|".toList → z = '|') z h hm
    refine alike_of_not_mem hk.mem (fun h => hbar (hmem h ?_)) (by simp)
      (net_of_flat fun c hc => hk.depth c ?_ ?_)
    · exact (by decide : ∀ z ∈ "&*|".toList, z ∈ "()&*|".toList) x hk.mark
    · rintro rfl
      exact absurd (hmem hc (by decide)) (by decide)
    · rintro rfl
      exact absurd (hmem hc (by decide)) (by decide)
  have hmid := hbars.append hend (apart_of_head hk (by cases f <;> rfl)) (apart_of_head hk rfl)
  have := alike_call hk hname tz hmid
  simpa [rangeText] using this

theorem alike_has (source : FieldSource) (p t : Text) :
    Alike δ sep (hasText source p (quote t))
      ("(".toList ++ (nameOutline p ++ ('"' :: (t ++ ['"']) ++ ")".toList))) := by
  have h : Quiet source.name := by cases source <;> decide
  have h1 := alike_value hk (by decide : Quiet ", ".toList) t
    (.refl ")".toList)
  have h2 := alike_call hk h p h1
  have hopen : Alike δ sep "has(".toList "(".toList :=
    (alike_quiet hk (by decide : Quiet "has".toList) (by decide : Quiet [])).append
      (.refl "(".toList) (apart_of_head hk rfl) (apart_of_head hk rfl)
  have := hopen.append h2 (apart_of_last hk rfl) (apart_of_last hk rfl)
  simpa [hasText] using this

theorem alike_equals (h : trim v = v) :
    Alike δ sep (" == ".toList ++ buildExprLiteral .eq v) ('"' :: (v ++ ['"'])) := by
  have h1 : ¬ MatchMode.eq = .contains := by decide
  have h2 : Quiet v → Alike δ sep (" == ".toList ++ v) ('"' :: (v ++ ['"'])) := fun hv =>
    alike_quiet hk (Quiet.append (by decide) hv)
      (Quiet.append (t := ['"']) (by decide) (hv.append (by decide)))
  unfold buildExprLiteral
  simp only [if_neg h1, h]
  split
  · next h => exact h2 (by rcases h with rfl | rfl <;> decide)
  split
  · next h => exact h2 (quiet_of_number (isNumber_of_literal h))
  · have := alike_value hk (by decide : Quiet " == ".toList) v (Alike.refl [])
    simpa using this

/-- **The outline tells where the text of a condition is cut.** -/
theorem written_alike {n : RequestCondition} (hnormal : n.Normal) (hc : n.Complete)
    (hl : n.Legible) (hbar : x ≠ '|' ∨ n.isRange = false) : Alike δ sep n.written n.outline := by
  cases n with
  | time f tz m v a b =>
    by_cases hm : m = .range
    · subst hm
      obtain ⟨-, -, ha, hb, h⟩ := range_written hnormal hc hl
      rw [h]
      have h : x ≠ '|' := hbar.resolve_right (by simp [isRange])
      exact alike_range hk h f tz ha hb
    · have hname : Quiet f.name := by cases f <;> decide
      have hv : isNumericLiteral (trim v) = true := by
        simpa only [RequestCondition.Complete, if_neg hm] using hc
      have hcompared : Quiet (m.spaced ++ trim v) :=
        Quiet.append (by cases m <;> decide) (quiet_of_number (isNumber_of_literal hv))
      have := alike_call hk hname tz
        (alike_quiet hk hcompared (by decide : Quiet []))
      rw [written, build_timeComparison hm hc, escape_eq_self_iff.mpr hl.1]
      simpa [outline, hm] using this
  | field source p m v =>
    obtain ⟨h, h1, hv, -⟩ := hl
    have hname : Quiet source.name := by cases source <;> decide
    have hescape : writtenName p = p := by
      rw [writtenName, h1]
      exact escape_eq_self_iff.mpr h
    -- What a parameter is tested for before it is used.
    have htested : ∀ {u v : Text}, Alike δ sep u v →
        u.head?.any (fun c => !" &*|".toList.contains c) = true →
        v.head?.any (fun c => !" &*|".toList.contains c) = true →
        Alike δ sep (callText source.name p ++ (" != nil && ".toList ++ u))
          (nameOutline p ++ (" && ".toList ++ v)) := fun {u v} h hu hv => by
      have hnil := (alike_quiet hk (by decide : Quiet " != nil".toList)
        (by decide : Quiet [])).append ((Alike.refl " && ".toList).append h
          (apart_of_head hk hu) (apart_of_head hk hv))
          (apart_of_last hk rfl) (Or.inl (by simp))
      exact alike_call hk hname p hnil
    rcases field_modes hnormal with rfl | rfl | rfl | ⟨rfl, hm⟩
    · rw [written, build_exists source v hc.1, hescape]
      have h : Quiet source.existsTest := by cases source <;> decide
      have := alike_call hk hname p
        (alike_quiet hk h (by decide : Quiet []))
      simpa [outline] using this
    · have hv : trim v = v := hv
      rw [written, build_contains source v hc.1, hescape, hv]
      have hhas := alike_has hk source p v
      cases source with
      | header => exact hhas
      | param => exact htested hhas rfl rfl
    · have hv : trim v = v := hv
      rw [written, build_equals source v hc.1, hescape]
      exact alike_call hk hname p (alike_equals hk hv)
    · have hnum := hc.2 hm
      have hcompared : Quiet (m.spaced ++ trim v) :=
        Quiet.append (by cases m <;> decide) (quiet_of_number (isNumber_of_literal hnum))
      rw [written, build_comparison .param hm hc.1 hnum, hescape]
      have h := alike_call hk hname p
        (alike_quiet hk hcompared (by decide : Quiet []))
      rw [append_nil] at h
      have := htested h rfl rfl
      simp only [mem_cons, not_mem_nil, or_false] at hm
      rcases hm with rfl | rfl | rfl | rfl <;> exact this

end

end Xingkong
