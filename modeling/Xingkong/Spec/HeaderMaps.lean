import Xingkong.Model.HeaderMaps

/-!
# Header operations on maps

What the operations of `Model/HeaderMaps.lean` leave alone, and what they do. The maps that were
there when an override starts are left alone, because the maps of the context are copies. What an
operation does to the maps of its context is what `Model/HeaderOverride.lean` says.
-/

namespace Xingkong.Mem

open ParamOperation (exec atPath)

open MapHeap MapHeap.Prog

variable {lib : JsonLib} {n : Nat}

/-! ## Frames -/

variable (lib) in
theorem frames_sanitizeEntry {target : Ref} (ht : n ≤ target) (e : String × Json) :
    Frames n (sanitizeEntry lib target e) := by
  simp only [sanitizeEntry]
  split
  · exact .pure _
  · split
    · split
      · exact .assign ht _ _
      · exact .pure _
    · exact .assign ht _ _

@[simp] theorem texts_assigned (m : JsonObject) (key value : String) :
    texts lib (m.filter (·.1 ≠ key) ++ [(key, .str value)]) = putHeader
    (texts lib m) key value := by
  simp [texts, putHeader, List.filter_map, Function.comp_def, JsonLib.sprint]

@[simp] theorem texts_deleted (m : JsonObject) (key : String) :
    texts lib (m.filter (·.1 ≠ key)) = dropHeader (texts lib m) key := by
  simp [texts, dropHeader, List.filter_map, Function.comp_def]

def sanitizedWith (lib : JsonLib) (target : Headers) (e : String × Json) : Headers :=
  let key := normalizeHeaderContextKey e.1
  let value := trimSpace (lib.sprint e.2)
  if key = "" then target
  else if value = "" then
    if isHeaderPassthroughRuleKeyForOverride key then putHeader target key "" else target
  else putHeader target key value

theorem follows_assign (target : Ref) (key value : String) :
    Follows (fun h => texts lib (h.cell target))
      (assign target key (.str value) : HeaderM Unit)
      (fun s => .ok ((), putHeader s key value)) :=
  .modify fun h => by rw [Heap.cell_write_self, texts_assigned]

variable (lib) in
theorem follows_sanitizeEntry (target : Ref) (e : String × Json) :
    Follows (fun h => texts lib (h.cell target)) (sanitizeEntry lib target e)
      (fun s => .ok ((), sanitizedWith lib s e)) := by
  simp only [sanitizeEntry, sanitizedWith]
  split
  · exact .pure _
  · split
    · split
      · exact follows_assign target _ _
      · exact .pure _
    · exact follows_assign target _ _

structure Copied (lib : JsonLib) (h h' : HeaderHeap) (t : Headers) : Prop where
  texts : texts lib (h'.cell h.size) = t
  size : h.size < h'.size
  old : ∀ r < h.size, h'.cell r = h.cell r

variable (lib) in
/-- A copy always succeeds. It is a map of its own and holds what is left of the source. -/
theorem sanitizeHeaderOverrideMap_apply (source : Option Ref) (h : HeaderHeap) :
    ∃ h' : HeaderHeap, sanitizeHeaderOverrideMap lib source h = (.ok h.size, h') ∧
      Copied lib h h' (Xingkong.sanitizeHeaderOverrideMap (texts lib (h.read source))) := by
  have h1 := Follows.forM_ok (h.read source) fun e _ => follows_sanitizeEntry lib h.size e
  obtain ⟨h', hrun, h2⟩ := seen_eq_ok (h1 (h.alloc []))
  have hframe := Frames.forM (h.read source) (fun e _ =>
    frames_sanitizeEntry lib (Nat.le_refl h.size) e) (h.alloc []) (Nat.le_succ _)
  rw [hrun] at hframe
  refine ⟨h', ?_, ?_, hframe.1, fun r hr => ?_⟩
  · show ((h.read source).forM (sanitizeEntry lib h.size) >>= fun _ => pure h.size) (h.alloc []) = _
    rw [bind_apply, hrun]
    rfl
  · rw [h2]
    beta_reduce
    rw [Heap.cell_alloc_self]
    unfold Xingkong.sanitizeHeaderOverrideMap Mem.texts
    rw [List.foldl_map]
    rfl
  · exact (hframe.2 r hr).trans (h.cell_alloc_of_lt [] hr)

theorem frames_sanitizeHeaderOverrideMap_bind {α : Type} {source : Option Ref}
    {f : Ref → HeaderM α} (hf : ∀ r, n ≤ r → Frames n (f r)) :
    Frames n (sanitizeHeaderOverrideMap lib source >>= f) := by
  refine .bind_of (.bind .heap fun _ => .make_bind fun _ ht => .bind
    (.forM _ fun e _ => frames_sanitizeEntry lib ht e) fun _ => .pure _) (fun h r hn hr => ?_) hf
  obtain ⟨h', h1, -⟩ := sanitizeHeaderOverrideMap_apply lib source h
  rw [h1] at hr
  cases hr
  exact hn

namespace Context

variable {ctx : Context}

theorem frames_now : Frames n (ctx.now lib) := fun _ _ => ⟨Nat.le_refl _, fun _ _ => rfl⟩

theorem frames_marshalContextJSON : Frames n (ctx.marshalContextJSON lib) :=
  .bind frames_now fun _ => .pure _

variable (hctx : n ≤ ctx.headerOverride) {p : OverrideErr → Bool}
include hctx

theorem frames_setHeaderOverrideInContext (headerName : String) (value : Json)
    (keepOrigin : Bool) :
    Frames n (ctx.setHeaderOverrideInContext lib headerName value keepOrigin) := by
  simp only [setHeaderOverrideInContext]
  split
  · exact .ofExcept _
  · refine .bind frames_now fun c => ?_
    split
    · exact .pure _
    · refine .bind (.ofExcept _) fun v => ?_
      cases v with
      | none => exact .delete hctx _
      | some v => exact .assign hctx _ _

theorem frames_deleteHeaderOverrideInContext (headerName : String) :
    Frames n (ctx.deleteHeaderOverrideInContext headerName) := by
  simp only [deleteHeaderOverrideInContext]
  split
  · exact .ofExcept _
  · exact .delete hctx _

theorem frames_copyHeaderInContext (fromHeader toHeader : String) (keepOrigin : Bool) :
    Frames n (ctx.copyHeaderInContext lib fromHeader toHeader keepOrigin) := by
  simp only [copyHeaderInContext]
  split
  · exact .ofExcept _
  · refine .bind frames_now fun c => ?_
    split
    · exact .ofExcept _
    · exact frames_setHeaderOverrideInContext hctx _ _ _

theorem frames_moveHeaderInContext (fromHeader toHeader : String) (keepOrigin : Bool) :
    Frames n (ctx.moveHeaderInContext lib fromHeader toHeader keepOrigin) := by
  simp only [moveHeaderInContext]
  split
  · exact .ofExcept _
  · refine .bind (frames_copyHeaderInContext hctx _ _ _) fun _ => ?_
    split
    · exact .pure _
    · exact frames_deleteHeaderOverrideInContext hctx _

theorem frames_writeSyncTargetValue (json : Json) (target : SyncTarget) (value : Json) :
    Frames n (ctx.writeSyncTargetValue lib json target value) := by
  cases target with
  | json key => exact .ofExcept _
  | header key =>
    exact .bind (frames_setHeaderOverrideInContext hctx _ _ _) fun _ => .pure _

theorem frames_syncFieldsBetweenTargets (json : Json) (fromSpec toSpec : String) :
    Frames n (ctx.syncFieldsBetweenTargets lib json fromSpec toSpec) := by
  refine .bind (.ofExcept _) fun source => ?_
  refine .bind (.ofExcept _) fun target => ?_
  refine .bind frames_now fun c => ?_
  split
  · exact frames_writeSyncTargetValue hctx _ _ _
  · exact frames_writeSyncTargetValue hctx _ _ _
  · exact .pure _

theorem frames_onHeaders (op : ParamOperation) (json : Json) :
    Frames n (onHeaders lib op json ctx) := by
  unfold onHeaders
  split
  · exact .bind (.mapError (frames_setHeaderOverrideInContext hctx _ _ _) _)
      fun _ => .pure _
  · exact .bind (.mapError (frames_deleteHeaderOverrideInContext hctx _) _)
      fun _ => .pure _
  · exact .bind (.mapError (.ignore (frames_copyHeaderInContext hctx _ _ _) _) _)
      fun _ => .pure _
  · exact .bind (.mapError (.ignore (frames_moveHeaderInContext hctx _ _ _) _) _)
      fun _ => .pure _
  · refine .bind (.ofExcept _) fun names => ?_
    exact .bind (.mapError (.forM names fun _ _ =>
      .ignore (frames_copyHeaderInContext hctx _ _ _) _) _) fun _ => .pure _
  · exact .mapError (frames_syncFieldsBetweenTargets hctx _ _ _) _
  · exact .pure _

theorem frames_applyOperation (s : Json × Json) (op : ParamOperation) :
    Frames n (applyOperation lib ctx s op) := by
  refine .bind (.ofExcept _) fun ok => ?_
  split
  · split
    · exact .bind (.ofExcept _) fun _ => .pure _
    · exact .bind (frames_onHeaders hctx op s.1) fun _ =>
        .bind frames_marshalContextJSON fun _ => .pure _
  · exact .pure _

variable (lib) in
theorem frames_applyParamOverride (json : Json) (paramOverride : JsonObject) :
    Frames n (applyParamOverride lib json paramOverride ctx) := by
  unfold applyParamOverride
  split
  · exact .pure _
  · split
    · refine .bind (.ofExcept _) fun json => ?_
      refine .bind frames_marshalContextJSON fun contextJSON => ?_
      exact .bind (.foldlM _ _ fun s op _ => frames_applyOperation hctx s op)
        fun _ => .pure _
    · exact .ofExcept _

omit hctx

/-! ## A missing source header -/

theorem clean_setHeaderOverrideInContext (headerName : String)
    (value : Json) (keepOrigin : Bool) :
    Clean p (ctx.setHeaderOverrideInContext lib headerName value keepOrigin) := by
  simp only [setHeaderOverrideInContext]
  split
  · exact .ofExcept _
  · refine .read_bind (fun _ => rfl) fun c => ?_
    split
    · exact .ofExcept (.ok ())
    · refine .read_bind (fun _ => rfl) fun v => ?_
      cases v with
      | none | some v => exact .modify _ _

theorem clean_copyHeaderInContext (fromHeader toHeader : String)
    (keepOrigin : Bool) :
    Clean p (ctx.copyHeaderInContext lib fromHeader toHeader keepOrigin) := by
  simp only [copyHeaderInContext]
  split
  · exact .ofExcept _
  · refine .read_bind (fun _ => rfl) fun c => ?_
    split
    · exact .ofExcept _
    · exact clean_setHeaderOverrideInContext _ _ _

theorem clean_moveHeaderInContext (fromHeader toHeader : String) (keepOrigin : Bool) :
    Clean isSourceHeaderNotFound
      (ctx.moveHeaderInContext lib fromHeader toHeader keepOrigin) := by
  simp only [moveHeaderInContext]
  split
  · exact .ofExcept _
  · refine .bind_last (clean_copyHeaderInContext _ _ _) fun _ h e he => ?_
    split at he
    · cases he
    · simp only [deleteHeaderOverrideInContext] at he
      split at he
      · cases he
        rfl
      · cases he

/-! ## What the operations do -/

theorem seen_now_bind {α : Type} (k : OverrideContext → HeaderM α) (h : HeaderHeap) :
    (ctx.now lib >>= k).seen (ctx.view lib) h = (k (ctx.view lib h)).seen (ctx.view lib) h := rfl

variable (hne : ctx.requestHeaders ≠ ctx.headerOverride) {op : ParamOperation}
include hne

theorem follows_put (key value : String) :
    Follows (ctx.view lib) (assign ctx.headerOverride key (.str value) : HeaderM Unit)
      (fun c => .ok ((), { c with headerOverride := putHeader c.headerOverride key value })) :=
  .modify fun h => by
    unfold view
    rw [Heap.cell_write_self, Heap.cell_write_of_ne _ _ hne, texts_assigned]

theorem follows_drop (key : String) :
    Follows (ctx.view lib) (delete ctx.headerOverride key : HeaderM Unit)
      (fun c => .ok ((), { c with headerOverride := dropHeader c.headerOverride key })) :=
  .modify fun h => by
    unfold view
    rw [Heap.cell_write_self, Heap.cell_write_of_ne _ _ hne, texts_deleted]

theorem follows_setHeaderOverrideInContext (headerName : String) (value : Json)
    (keepOrigin : Bool) :
    Follows (ctx.view lib) (ctx.setHeaderOverrideInContext lib headerName value keepOrigin)
      (fun c => (Xingkong.setHeaderOverrideInContext lib c headerName value keepOrigin).map
        ((), ·)) := by
  simp only [setHeaderOverrideInContext, Xingkong.setHeaderOverrideInContext]
  split
  · exact .ofExcept _
  · intro h
    beta_reduce
    rw [seen_now_bind]
    split
    · rfl
    · rw [seen_ofExcept_bind]
      cases resolveHeaderOverrideValue lib (ctx.view lib h) _ value with
      | error e => rfl
      | ok v =>
        cases v with
        | none => exact follows_drop hne _ h
        | some v => exact follows_put hne _ v h

theorem follows_deleteHeaderOverrideInContext (headerName : String) :
    Follows (ctx.view lib) (ctx.deleteHeaderOverrideInContext headerName)
      (fun c => (Xingkong.deleteHeaderOverrideInContext c headerName).map ((), ·)) := by
  simp only [deleteHeaderOverrideInContext, Xingkong.deleteHeaderOverrideInContext]
  split
  · exact .ofExcept _
  · exact follows_drop hne _

variable (lib) in
theorem follows_copyHeaderInContext (fromHeader toHeader : String) (keepOrigin : Bool) :
    Follows (ctx.view lib) (ctx.copyHeaderInContext lib fromHeader toHeader keepOrigin)
      (fun c => (Xingkong.copyHeaderInContext lib c fromHeader toHeader keepOrigin).map
        ((), ·)) := by
  simp only [copyHeaderInContext, Xingkong.copyHeaderInContext]
  split
  · exact .ofExcept _
  · intro h
    beta_reduce
    rw [seen_now_bind]
    cases getHeaderValueFromContext (ctx.view lib h) (normalizeHeaderContextKey fromHeader) with
    | none => rfl
    | some value => exact follows_setHeaderOverrideInContext hne _ _ _ h

theorem follows_moveHeaderInContext (fromHeader toHeader : String) (keepOrigin : Bool) :
    Follows (ctx.view lib) (ctx.moveHeaderInContext lib fromHeader toHeader keepOrigin)
      (fun c => (Xingkong.moveHeaderInContext lib c fromHeader toHeader keepOrigin).map
        ((), ·)) := by
  simp only [moveHeaderInContext, Xingkong.moveHeaderInContext]
  split
  · exact Follows.ofExcept _
  · have hcopy := follows_copyHeaderInContext lib hne (normalizeHeaderContextKey fromHeader)
      (normalizeHeaderContextKey toHeader) keepOrigin
    split
    · refine (Follows.bind hcopy fun _ => Follows.pure ()).congr fun c => ?_
      cases Xingkong.copyHeaderInContext lib c _ _ keepOrigin <;> rfl
    · refine (Follows.bind hcopy fun _ =>
        follows_deleteHeaderOverrideInContext hne (normalizeHeaderContextKey fromHeader)).congr
          fun c => ?_
      cases Xingkong.copyHeaderInContext lib c _ _ keepOrigin with
      | error e => rfl
      | ok c' => simp only [Except.map, bind, Except.bind]

omit hne in
theorem map_orMissing (c : OverrideContext) (r : OverrideM OverrideContext) :
    recover isSourceHeaderNotFound c (r.map ((), ·)) = (orMissing c r).map ((), ·) := by
  cases r with
  | ok c' => rfl
  | error e => cases e <;> rfl

variable (lib) in
theorem follows_copyHeader (fromHeader toHeader : String) (keepOrigin : Bool) :
    Follows (ctx.view lib) (ignore isSourceHeaderNotFound
        (ctx.copyHeaderInContext lib fromHeader toHeader keepOrigin))
      (fun c => (orMissing c
        (Xingkong.copyHeaderInContext lib c fromHeader toHeader keepOrigin)).map ((), ·)) :=
  ((follows_copyHeaderInContext lib hne _ _ _).ignore (clean_copyHeaderInContext _ _ _)).congr
    fun _ => map_orMissing _ _

theorem follows_moveHeader (fromHeader toHeader : String) (keepOrigin : Bool) :
    Follows (ctx.view lib) (ignore isSourceHeaderNotFound
        (ctx.moveHeaderInContext lib fromHeader toHeader keepOrigin))
      (fun c => (orMissing c
        (Xingkong.moveHeaderInContext lib c fromHeader toHeader keepOrigin)).map ((), ·)) :=
  ((follows_moveHeaderInContext hne _ _ _).ignore (clean_moveHeaderInContext _ _ _)).congr
    fun _ => map_orMissing _ _

theorem follows_writeSyncTargetValue (json : Json) (target : SyncTarget) (value : Json) :
    Follows (ctx.view lib) (ctx.writeSyncTargetValue lib json target value)
      (fun c => Xingkong.writeSyncTargetValue lib json c target value) := by
  cases target with
  | json key =>
    refine (Follows.ofExcept _).congr fun c => ?_
    simp only [Xingkong.writeSyncTargetValue]
    cases liftLib (lib.set json (processNegativeIndex lib json key) value) <;> rfl
  | header key =>
    refine (Follows.bind (follows_setHeaderOverrideInContext hne key value false)
      fun _ => Follows.pure json).congr fun c => ?_
    simp only [Xingkong.writeSyncTargetValue]
    cases Xingkong.setHeaderOverrideInContext lib c key value false <;> rfl

theorem follows_syncFieldsBetweenTargets (json : Json) (fromSpec toSpec : String) :
    Follows (ctx.view lib) (ctx.syncFieldsBetweenTargets lib json fromSpec toSpec)
      (fun c => Xingkong.syncFieldsBetweenTargets lib json c fromSpec toSpec) := by
  unfold syncFieldsBetweenTargets Xingkong.syncFieldsBetweenTargets
  refine .ofExcept_bind fun source => .ofExcept_bind fun target h => ?_
  rw [seen_now_bind]
  cases readSyncTargetValue lib json (ctx.view lib h) source <;>
    cases readSyncTargetValue lib json (ctx.view lib h) target <;>
    first | exact follows_writeSyncTargetValue hne _ _ _ h | rfl

omit hne in
theorem follows_keepBody {x : HeaderM Unit} {f : OverrideContext → OverrideM OverrideContext}
    (hx : Follows (ctx.view lib) x (fun c => (f c).map ((), ·))) (mode : OverrideMode)
    (json : Json) :
    Follows (ctx.view lib) (do mapError (.failed mode) x; return json)
      (fun c => do return (json, ← (f c).mapError (.failed mode))) := by
  refine (Follows.bind (hx.mapError _) fun _ => Follows.pure json).congr fun c => ?_
  cases f c <;> rfl

theorem follows_onHeaders {json j : Json}
    (hop : onBody lib op json j = none) :
    Follows (ctx.view lib) (onHeaders lib op json ctx) (fun c => op.exec lib json c) := by
  unfold onBody at hop
  cases hat : op.atPath lib j with
  | some f => rw [hat] at hop; cases hop
  | none =>
    rw [hat] at hop
    obtain ⟨path, mode, value, keepOrigin, source, target, conditions, logic⟩ := op
    cases mode with
    | setHeader =>
      exact follows_keepBody (follows_setHeaderOverrideInContext hne path value keepOrigin) _ json
    | deleteHeader =>
      exact follows_keepBody (follows_deleteHeaderOverrideInContext hne path) _ json
    | copyHeader => exact follows_keepBody (follows_copyHeader lib hne _ _ keepOrigin) _ json
    | moveHeader => exact follows_keepBody (follows_moveHeader hne _ _ keepOrigin) _ json
    | passHeaders =>
      simp only [onHeaders, exec, atPath]
      exact .ofExcept_bind fun names => follows_keepBody (Follows.forM fun name _ =>
        follows_copyHeader lib hne name name keepOrigin) _ json
    | syncFields =>
      exact Follows.mapError (follows_syncFieldsBetweenTargets hne json source target) _
    | copy | returnError =>
      simp only at hop
      split at hop <;> cases hop
    -- the other operations on the body
    | _ => simp [atPath] at hat hop

omit hne in
theorem exec_of_onBody {json : Json} {c : OverrideContext}
    {r : OverrideM Json}
    (hop : onBody lib op json c.json = some r) : op.exec lib json c = r.map (·, c) := by
  unfold onBody at hop
  simp only [exec]
  cases hat : op.atPath lib c.json with
  | some f =>
    rw [hat] at hop
    cases hop
    simp only
    cases (List.foldlM f json _).mapError (OverrideErr.failed op.mode) <;> rfl
  | none =>
    rw [hat] at hop
    obtain ⟨path, mode, value, keepOrigin, source, target, conditions, logic⟩ := op
    cases mode with
    | move =>
      cases hop
      cases (moveValue lib json _ _).mapError (OverrideErr.failed .move) <;> rfl
    | copy =>
      simp only at hop ⊢
      split at hop
      next h =>
        cases hop
        rw [if_pos h]
        rfl
      next h =>
        cases hop
        rw [if_neg h]
        cases (copyValue lib json _ _).mapError (OverrideErr.failed .copy) <;> rfl
    | returnError =>
      cases h : parseParamOverrideReturnError lib value with
      | ok e | error e =>
        simp only [h] at hop ⊢
        cases hop
        rfl
    | unknown text =>
      cases hop
      rfl
    -- the operations on paths are done, and those on headers are not on the body
    | _ => simp [atPath] at hat hop

/-! ## The loop -/

variable (lib) in
/-- One turn of the loop, as long as the context was marshalled when it last changed. -/
theorem seen_applyOperation (h : HeaderHeap) (json : Json) (op : ParamOperation) :
    (applyOperation lib ctx (json, (ctx.view lib h).json) op).seen (ctx.view lib) h =
      (Xingkong.applyOperation lib (json, ctx.view lib h) op).map
        fun r => ((r.1, r.2.json), r.2) := by
  unfold applyOperation Xingkong.applyOperation
  cases checkConditions lib json (ctx.view lib h).json op.conditions op.logic with
  | error e => rfl
  | ok holds =>
    cases holds with
    | false => rfl
    | true =>
      cases hop : onBody lib op json (ctx.view lib h).json with
      | some r =>
        show _ = (op.exec lib json (ctx.view lib h)).map _
        rw [exec_of_onBody hop]
        cases r <;> rfl
      | none =>
        show (onHeaders lib op json ctx >>= _ : HeaderM _).seen (ctx.view lib) h =
          (op.exec lib json (ctx.view lib h)).map _
        have h1 : (onHeaders lib op json ctx).seen (ctx.view lib) h =
            op.exec lib json (ctx.view lib h) := follows_onHeaders hne hop h
        rw [← h1]
        rw [seen_bind]
        unfold seen
        obtain ⟨r, h1⟩ := onHeaders lib op json ctx h
        cases r <;> rfl

variable (lib) in
theorem seen_foldlM_applyOperation (operations : List ParamOperation) (h : HeaderHeap)
    (json : Json) :
    (operations.foldlM (applyOperation lib ctx) (json, (ctx.view lib h).json)).seen
        (ctx.view lib) h =
      (operations.foldlM (Xingkong.applyOperation lib) (json, ctx.view lib h)).map
        fun r => ((r.1, r.2.json), r.2) := by
  induction operations generalizing h json with
  | nil => rfl
  | cons op rest ih =>
    rw [List.foldlM_cons, List.foldlM_cons, seen_bind]
    have hstep := seen_applyOperation lib hne h json op
    cases h1 : Xingkong.applyOperation lib (json, ctx.view lib h) op with
    | error e =>
      rw [h1] at hstep
      obtain ⟨h', hrun⟩ := seen_eq_error hstep
      rw [hrun]
      rfl
    | ok r =>
      rw [h1] at hstep
      obtain ⟨h', hrun, h⟩ := seen_eq_ok hstep
      rw [hrun]
      show seen _ (rest.foldlM _ (r.1, r.2.json)) h' = Except.map _ (rest.foldlM _ (r.1, r.2))
      rw [← h]
      exact ih h' r.1

end Context

end Xingkong.Mem
