import Xingkong.Spec.HeaderMaps
import Xingkong.System.HeaderIsolation

/-!
# Overrides fail as a whole

An override that fails leaves the relay information as it was, and with it every map that was there
before: the header operations that had succeeded by then have written into a copy.
`applyParamOverrideWithRelayInfo_refines` connects the maps with the model that passes headers on by
value: what is in the relay information after a call is what that model says.
-/

namespace Xingkong.Mem

open MapHeap MapHeap.Prog

variable {lib : JsonLib} {n : Nat}

/-! ## The context of a call -/

theorem texts_strings (h : Headers) : texts lib (h.map fun e => (e.1, .str e.2)) = h := by
  unfold texts
  rw [List.map_map]
  exact List.map_id h

variable {info : RelayInfo} {h h' : HeaderHeap} {ctx : Context}

theorem RelayInfo.Held.read_eq (held : info.Held h)
    (h1 : ∀ r < h.size, h'.cell r = h.cell r) :
    h'.read info.runtimeHeadersOverride = h.read info.runtimeHeadersOverride ∧
      h'.read info.getHeaderOverrideMap = h.read info.getHeaderOverrideMap := by
  have h2 (o : Option Ref) (ho : ∀ r ∈ o, r < h.size) : h'.read o = h.read o := by
    cases o with
    | none => rfl
    | some r => exact h1 r (ho r rfl)
  exact ⟨h2 _ held.1, h2 _ held.2⟩

theorem RelayInfo.Held.view_eq (held : info.Held h)
    (h1 : ∀ r < h.size, h'.cell r = h.cell r) : info.view lib h' = info.view lib h := by
  obtain ⟨h2, h3⟩ := held.read_eq h1
  unfold RelayInfo.view
  rw [h2]
  unfold RelayInfo.getHeaderOverrideMap at h3
  cases h1 : info.channelMeta with
  | none => rfl
  | some c =>
    rw [h1] at h3
    simp [show h'.read c.headersOverride = h.read c.headersOverride from h3]

theorem RelayInfo.texts_getHeaderOverrideMap (info : RelayInfo) (h : HeaderHeap) :
    Xingkong.getHeaderOverrideMap lib (info.view lib h) =
      texts lib (h.read info.getHeaderOverrideMap) := by
  unfold Xingkong.getHeaderOverrideMap RelayInfo.view RelayInfo.getHeaderOverrideMap
  cases info.channelMeta <;> rfl

variable (lib) in
theorem RelayInfo.getEffectiveHeaderOverride_apply (info : RelayInfo) (h : HeaderHeap) :
    ∃ h' : HeaderHeap, info.getEffectiveHeaderOverride lib h = (.ok h.size, h') ∧
      Copied lib h h' (Xingkong.getEffectiveHeaderOverride lib (info.view lib h)) := by
  unfold RelayInfo.getEffectiveHeaderOverride Xingkong.getEffectiveHeaderOverride
  rw [info.texts_getHeaderOverrideMap h]
  show ∃ h', _ ∧ Copied lib h h' (if info.useRuntimeHeadersOverride then _ else _)
  split
  · exact sanitizeHeaderOverrideMap_apply lib info.runtimeHeadersOverride h
  · exact sanitizeHeaderOverrideMap_apply lib info.getHeaderOverrideMap h

variable (lib) in
theorem RelayInfo.buildParamOverrideContext_apply (info : RelayInfo) (h : HeaderHeap) :
    ∃ (ctx : Context) (h' : HeaderHeap), info.buildParamOverrideContext lib h = (.ok ctx, h') ∧
      h.size ≤ ctx.requestHeaders ∧ ctx.requestHeaders < ctx.headerOverride ∧ h.size ≤ h'.size ∧
      (∀ r < h.size, h'.cell r = h.cell r) ∧
      (info.Held h →
        ctx.view lib h' = Xingkong.buildParamOverrideContext lib (info.view lib h)) := by
  -- the heap after each of the three maps
  generalize hh1 : h.alloc ((buildRequestHeadersContext info.requestHeaders).map fun e =>
    (e.1, Json.str e.2)) = h1
  have h2 : h1.size = h.size + 1 := by rw [← hh1]; rfl
  have hold1 : ∀ r < h.size, h1.cell r = h.cell r := by
    intro r hr
    rw [← hh1]
    exact h.cell_alloc_of_lt _ hr
  obtain ⟨h2, h4, hcopied2⟩ := info.getEffectiveHeaderOverride_apply lib h1
  obtain ⟨h3, hcopy, hcopied3⟩ := sanitizeHeaderOverrideMap_apply lib (some h1.size) h2
  have h5 := hcopied2.size
  have h6 := hcopied3.size
  have hold3 : ∀ r < h1.size, h3.cell r = h1.cell r := fun r hr =>
    (hcopied3.old r (hr.trans h5)).trans (hcopied2.old r hr)
  refine ⟨⟨h.size, h2.size, (Xingkong.buildParamOverrideContext lib (info.view lib h)).entries⟩, h3,
    ?_, Nat.le_refl _,
    show h.size < h2.size by omega, by omega, fun r hr => ?_, ?_⟩
  · have h5 : (make _ : HeaderM Ref) h = (.ok h.size, h1) := congrArg (Prod.mk _) hh1
    have h1 : (heap : HeaderM HeaderHeap) h = (.ok h, h) := rfl
    unfold RelayInfo.buildParamOverrideContext
    rw [bind_ok h1, bind_ok h5, bind_ok h4, bind_ok hcopy]
    rfl
  · exact (hold3 r (by omega)).trans (hold1 r hr)
  · intro held
    have h1 : texts lib (h3.cell h.size) = buildRequestHeadersContext info.requestHeaders := by
      rw [hold3 h.size (by omega), ← hh1, Heap.cell_alloc_self, texts_strings]
    have h4 : texts lib (h3.cell h2.size) = Xingkong.sanitizeHeaderOverrideMap
        (Xingkong.getEffectiveHeaderOverride lib (info.view lib h)) := by
      rw [hcopied3.texts, ← held.view_eq hold1, ← hcopied2.texts]
      rfl
    unfold Context.view
    rw [h1, h4]
    rfl

/-! ## One call -/

theorem Context.follows_applyOperations (hne : ctx.requestHeaders ≠ ctx.headerOverride)
    (json : Json)
    (operations : List ParamOperation) :
    Follows (ctx.view lib) (applyOperations lib json operations ctx)
      (fun c => Xingkong.applyOperations lib json operations c) := by
  intro h
  show (operations.foldlM (applyOperation lib ctx) (json, (ctx.view lib h).json) >>=
    fun r => pure r.1 : HeaderM Json).seen (ctx.view lib) h =
      operations.foldlM (Xingkong.applyOperation lib) (json, ctx.view lib h)
  rw [seen_bind]
  have h1 := seen_foldlM_applyOperation lib hne operations h json
  cases h2 : operations.foldlM (Xingkong.applyOperation lib) (json, ctx.view lib h) with
  | error e =>
    rw [h2] at h1
    obtain ⟨h', hrun⟩ := seen_eq_error h1
    rw [hrun]
  | ok r =>
    rw [h2] at h1
    obtain ⟨h', hrun, h2⟩ := seen_eq_ok h1
    rw [hrun]
    show Except.ok (r.1, ctx.view lib h') = .ok r
    rw [h2]

variable (lib) in
theorem Context.follows_applyParamOverride (hne : ctx.requestHeaders ≠ ctx.headerOverride)
    (json : Json) (paramOverride : JsonObject) :
    Follows (ctx.view lib) (applyParamOverride lib json paramOverride ctx)
      (fun c => Xingkong.applyParamOverride lib json paramOverride c) := by
  intro h
  unfold applyParamOverride Xingkong.applyParamOverride
  split
  · rfl
  · cases tryParseOperations paramOverride with
    | none =>
      cases applyOperationsLegacy json paramOverride <;> rfl
    | some operations =>
      simp only
      split
      · exact follows_applyOperations hne json operations h
      · cases applyOperationsLegacy json (buildLegacyParamOverride paramOverride) with
        | error e => rfl
        | ok json => exact follows_applyOperations hne json operations h

variable (lib) in
theorem RelayInfo.frames_applyParamOverrideWithRelayInfo (info : RelayInfo) (json : Json) :
    Frames n (info.applyParamOverrideWithRelayInfo lib json) := by
  unfold RelayInfo.applyParamOverrideWithRelayInfo
  split
  · exact .pure _
  · have h1 : Frames n (info.buildParamOverrideContext lib) := by
      intro h hn
      obtain ⟨ctx, h', hrun, -, -, h2, hold, -⟩ := info.buildParamOverrideContext_apply lib h
      rw [hrun]
      exact ⟨h2, fun r hr => hold r (Nat.lt_of_lt_of_le hr hn)⟩
    refine .bind_of (P := fun ctx => n ≤ ctx.headerOverride) h1 ?_ fun ctx hctx => ?_
    · intro h ctx hn hctx
      obtain ⟨ctx', h', hrun, h1, h2, -⟩ := info.buildParamOverrideContext_apply lib h
      rw [hrun] at hctx
      cases hctx
      exact Nat.le_trans hn (Nat.le_trans h1 (Nat.le_of_lt h2))
    · refine Frames.bind (Context.frames_applyParamOverride lib hctx json _) fun result => ?_
      refine .bind ?_ fun _ => .pure _
      exact frames_sanitizeHeaderOverrideMap_bind fun _ _ => .pure _

theorem RelayInfo.getParamOverrideMap_view (info : RelayInfo) (h : HeaderHeap) :
    Xingkong.getParamOverrideMap (info.view lib h) = info.getParamOverrideMap := by
  unfold Xingkong.getParamOverrideMap RelayInfo.view RelayInfo.getParamOverrideMap
  cases info.channelMeta <;> rfl

variable (lib) in
theorem RelayInfo.syncRuntimeHeaderOverrideFromContext_apply {h2 : HeaderHeap} (held : info.Held h)
    (hold : ∀ r < h.size, h2.cell r = h.cell r) (hsize : h.size ≤ h2.size) (ctx : Context) :
    ∃ info' h', info.syncRuntimeHeaderOverrideFromContext lib ctx h2 = (.ok info', h') ∧
      info'.Held h' ∧ info'.view lib h' =
        Xingkong.syncRuntimeHeaderOverrideFromContext (info.view lib h) (ctx.view lib h2) := by
  obtain ⟨h3, hcopy, hcopied⟩ := sanitizeHeaderOverrideMap_apply lib (some ctx.headerOverride) h2
  have hview : info.view lib h3 = info.view lib h :=
    held.view_eq fun r hr => (hcopied.old r (Nat.lt_of_lt_of_le hr hsize)).trans (hold r hr)
  refine ⟨{ info with runtimeHeadersOverride := some h2.size, useRuntimeHeadersOverride := true },
    h3, ?_, ⟨?_, ?_⟩, ?_⟩
  · unfold RelayInfo.syncRuntimeHeaderOverrideFromContext
    rw [bind_ok hcopy]
    rfl
  · rintro r ⟨⟩
    exact hcopied.size
  · intro r hr
    exact Nat.lt_of_lt_of_le (held.2 r hr) (Nat.le_trans hsize (Nat.le_of_lt hcopied.size))
  · rw [← hview]
    unfold Xingkong.syncRuntimeHeaderOverrideFromContext
    have h1 : texts lib (h3.cell h2.size) =
        Xingkong.sanitizeHeaderOverrideMap (ctx.view lib h2).headerOverride := hcopied.texts
    rw [← h1]
    rfl

variable (lib) in
theorem RelayInfo.applyParamOverrideWithRelayInfo_apply (held : info.Held h) (json : Json) :
    (∃ result info' h', info.applyParamOverrideWithRelayInfo lib json h =
        (.ok (result, info'), h') ∧
      info'.Held h' ∧
      Xingkong.applyParamOverrideWithRelayInfo lib json (info.view lib h) =
        (.ok result, info'.view lib h')) ∨
    (∃ e h', info.applyParamOverrideWithRelayInfo lib json h = (.error e, h') ∧
      Xingkong.applyParamOverrideWithRelayInfo lib json (info.view lib h) =
        (.error e, info.view lib h)) := by
  unfold RelayInfo.applyParamOverrideWithRelayInfo Xingkong.applyParamOverrideWithRelayInfo
  rw [info.getParamOverrideMap_view h]
  split
  · exact .inl ⟨json, info, h, rfl, held, rfl⟩
  · obtain ⟨ctx, h1, h2, hrequest, hoverride, hsize1, hold1, h3⟩ :=
      info.buildParamOverrideContext_apply lib h
    have happly := Context.follows_applyParamOverride lib (Nat.ne_of_lt hoverride) json
      info.getParamOverrideMap h1
    beta_reduce at happly
    rw [h3 held] at happly
    rw [bind_ok h2]
    cases h3 : Xingkong.applyParamOverride lib json info.getParamOverrideMap
        (Xingkong.buildParamOverrideContext lib (info.view lib h)) with
    | error e =>
      rw [h3] at happly
      obtain ⟨h2, hrun⟩ := seen_eq_error happly
      rw [bind_error hrun]
      exact .inr ⟨e, h2, rfl, rfl⟩
    | ok r =>
      rw [h3] at happly
      obtain ⟨h2, hrun, hview2⟩ := seen_eq_ok happly
      rw [bind_ok hrun]
      have h2 := Context.frames_applyParamOverride lib
        (Nat.le_trans hrequest (Nat.le_of_lt hoverride)) json info.getParamOverrideMap h1 hsize1
      rw [hrun] at h2
      obtain ⟨info', h3, h1, h4, h5⟩ :=
        RelayInfo.syncRuntimeHeaderOverrideFromContext_apply lib held
          (fun r hr => (h2.2 r hr).trans (hold1 r hr)) (Nat.le_trans hsize1 h2.1) ctx
      rw [bind_ok h1]
      rw [hview2] at h5
      exact .inl ⟨r.1, info', h3, rfl, h4, by rw [h5]⟩

def RelayInfo.after (info : RelayInfo) : OverrideM (Json × RelayInfo) → RelayInfo
  | .ok (_, info') => info'
  | .error _ => info

theorem RelayInfo.Held.after (held : info.Held h) (json : Json) :
    (info.after (info.applyParamOverrideWithRelayInfo lib json h).1).Held
      (info.applyParamOverrideWithRelayInfo lib json h).2 := by
  have h1 := (info.frames_applyParamOverrideWithRelayInfo lib json h (Nat.le_refl h.size)).1
  obtain ⟨result, info', h', hrun, h2, -⟩ | ⟨e, h', hrun, -⟩ :=
    RelayInfo.applyParamOverrideWithRelayInfo_apply lib held json
  · rw [hrun]
    exact h2
  · rw [hrun] at h1 ⊢
    exact ⟨fun r hr => Nat.lt_of_lt_of_le (held.1 r hr) h1,
      fun r hr => Nat.lt_of_lt_of_le (held.2 r hr) h1⟩

structure RelayState where
  heap : HeaderHeap
  info : RelayInfo
  held : info.Held heap

namespace RelayState

variable (lib) in
def view (s : RelayState) : OverrideInfo := s.info.view lib s.heap

def runtimeHeadersOverride (s : RelayState) : JsonObject :=
  s.heap.read s.info.runtimeHeadersOverride

def headersOverride (s : RelayState) : JsonObject := s.heap.read s.info.getHeaderOverrideMap

variable (lib) in
def applyParamOverrideWithRelayInfo (s : RelayState) (json : Json) : OverrideM Json × RelayState :=
  let out := s.info.applyParamOverrideWithRelayInfo lib json s.heap
  (out.1.map (·.1), { heap := out.2, info := s.info.after out.1, held := s.held.after json })

/-- **Copies make no difference**: what a call returns and what it leaves in the relay information
is what the model without references says. -/
theorem applyParamOverrideWithRelayInfo_refines (s : RelayState) (json : Json) :
    (s.applyParamOverrideWithRelayInfo lib json).1 =
        (Xingkong.applyParamOverrideWithRelayInfo lib json (s.view lib)).1 ∧
      (s.applyParamOverrideWithRelayInfo lib json).2.view lib =
        (Xingkong.applyParamOverrideWithRelayInfo lib json (s.view lib)).2 := by
  unfold applyParamOverrideWithRelayInfo view
  obtain ⟨result, info', h', hrun, -, h1⟩ | ⟨e, h', hrun, h1⟩ :=
    RelayInfo.applyParamOverrideWithRelayInfo_apply lib s.held json
  · simp only [hrun, h1]
    exact ⟨rfl, rfl⟩
  · have h2 := s.info.frames_applyParamOverrideWithRelayInfo lib json s.heap (Nat.le_refl _)
    rw [hrun] at h2
    simp only [hrun, h1]
    exact ⟨rfl, s.held.view_eq h2.2⟩

/-- **A failed override leaves no trace**: whichever operation fails and whatever succeeded before,
the runtime headers, the flag and the channel's headers are as they were before the call, and so is
every other map there was. -/
theorem failed_override_invisible (lib : JsonLib) (s : RelayState) (json : Json) (e : OverrideErr)
    (hfail : (s.applyParamOverrideWithRelayInfo lib json).1 = .error e) :
    let s' := (s.applyParamOverrideWithRelayInfo lib json).2
    s'.info = s.info ∧
      s'.runtimeHeadersOverride = s.runtimeHeadersOverride ∧
      s'.info.useRuntimeHeadersOverride = s.info.useRuntimeHeadersOverride ∧
      s'.headersOverride = s.headersOverride ∧
      ∀ r < s.heap.size, s'.heap.cell r = s.heap.cell r := by
  have hframe := (s.info.frames_applyParamOverrideWithRelayInfo lib json s.heap (Nat.le_refl _)).2
  obtain ⟨hruntime, hheaders⟩ := s.held.read_eq hframe
  have hinfo : (s.applyParamOverrideWithRelayInfo lib json).2.info = s.info := by
    show s.info.after (s.info.applyParamOverrideWithRelayInfo lib json s.heap).1 = s.info
    have h1 : (s.info.applyParamOverrideWithRelayInfo lib json s.heap).1.map (·.1) = .error e :=
      hfail
    cases hout : (s.info.applyParamOverrideWithRelayInfo lib json s.heap).1 with
    | error e => rfl
    | ok r =>
      rw [hout] at h1
      cases h1
  refine ⟨hinfo, ?_, congrArg _ hinfo, ?_, hframe⟩
  · show Heap.read _ (RelayInfo.runtimeHeadersOverride _) = _
    rw [hinfo]
    exact hruntime
  · show Heap.read _ (RelayInfo.getHeaderOverrideMap _) = _
    rw [hinfo]
    exact hheaders

def refusing : RelayState where
  heap := { size := 1, cell := fun _ => [("X-Two", .str "2")] }
  info :=
    { originModelName := "m", requestURLPath := "", requestHeaders := [], isChannelTest := false
      retryIndex := 0, lastError := none, runtimeHeadersOverride := none
      useRuntimeHeadersOverride := false
      channelMeta := some
        { paramOverride := [("operations", .arr [
            .obj [("mode", .str "set_header"), ("path", .str "X-Two"), ("value", .str "3")],
            .obj [("mode", .str "return_error"), ("value", .str "no")]])]
          headersOverride := some 0, upstreamModelName := "m" } }
  held := ⟨fun _ h => (nomatch h), fun _ h => by cases h; exact Nat.one_pos⟩

def refusal : OverrideM Json → Option OverrideErr
  | .error e => some e
  | .ok _ => none

theorem eq_error_of_refusal {r : OverrideM Json} {e : OverrideErr} (h : refusal r = some e) :
    r = .error e := by
  cases r with
  | error e' => exact congrArg Except.error (Option.some.inj h)
  | ok v => cases h

theorem failed_override_invisible_refusing :
    (refusing.applyParamOverrideWithRelayInfo plainLib (.obj [])).1 =
        .error (.returned { message := "no", statusCode := 400, code := "invalid_request"
                            type := "invalid_request_error", skipRetry := true }) ∧
      (refusing.applyParamOverrideWithRelayInfo plainLib (.obj [])).2.headersOverride =
        [("X-Two", .str "2")] := by
  have h1 := eq_error_of_refusal (r := (refusing.applyParamOverrideWithRelayInfo plainLib
    (.obj [])).1) (e := .returned { message := "no", statusCode := 400, code := "invalid_request"
                                    type := "invalid_request_error", skipRetry := true })
    (by decide +kernel)
  exact ⟨h1, (failed_override_invisible plainLib refusing (.obj []) _ h1).2.2.2.1⟩

end RelayState

end Xingkong.Mem
