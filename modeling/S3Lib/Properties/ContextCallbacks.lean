import S3Lib.Model.CtxCtrl

/-! # A context's SRP mask and OCSP status callback over runs

Two entry points of `s3_lib.c` write a context: `ssl3_ctx_ctrl` and `ssl3_ctx_callback_ctrl`.
Both add `SSL_kSRP` to `srp_ctx.srp_Mask` on their SRP commands (the user name and the callback
argument of `ssl3_ctx_ctrl`, the three SRP callbacks of `ssl3_ctx_callback_ctrl`), and neither
clears a bit of it: the mask a run leaves is the first one, with `SSL_kSRP` added exactly when the
run has an SRP command. The OCSP status callback that `SSL_CTRL_GET_TLSEXT_STATUS_REQ_CB` hands
back is the one the run's last `SSL_CTRL_SET_TLSEXT_STATUS_REQ_CB` installed. The functions
outside `s3_lib.c` that `ssl3_ctx_ctrl` calls are assumed to leave both alone.
-/

namespace S3Lib.ContextCallbacks

open S3Lib

/-- The entry points of a context that a run interleaves, `ssl3_ctx_ctrl` with what the
functions outside `s3_lib.c` do in that call. -/
inductive CtxOp where
  | ctrl (lib : CtxLib) (cmd : CtxCtrl)
  | callbackCtrl (cmd : CtxCallbackCtrl)

/-- One entry point. -/
def ctxStep (k : Consts) (ctx : SslCtx) : CtxOp → SslCtx
  | .ctrl lib cmd => (ssl3CtxCtrl k lib ctx cmd).1
  | .callbackCtrl cmd => (ssl3CtxCallbackCtrl k ctx cmd).1

/-- A run of a context: the entry points in order. -/
def ctxOpRun (k : Consts) (ctx : SslCtx) (ops : List CtxOp) : SslCtx := ops.foldl (ctxStep k) ctx

/-- The SRP mask and the status callback of a context. -/
def callbacks (ctx : SslCtx) : Nat × Nat := (ctx.srpCtx.srpMask, ctx.statusCb)

/-- The library functions leave the SRP mask and the status callback alone. -/
def LibKeepsCallbacks (lib : CtxLib) : Prop :=
  ∀ call ctx, callbacks (lib.call call ctx).1 = callbacks ctx

/-- The entry points that enable SRP in the context's mask. -/
def enablesSrp : CtxOp → Bool
  | .ctrl _ (.setTlsExtSrpUsername _) => true
  | .ctrl _ (.setSrpArg _) => true
  | .callbackCtrl (.setSrpVerifyParamCb _) => true
  | .callbackCtrl (.setTlsExtSrpUsernameCb _) => true
  | .callbackCtrl (.setSrpGiveClientPwdCb _) => true
  | _ => false

/-- The status callback an entry point installs. -/
def installedStatusCb : CtxOp → Option Nat
  | .callbackCtrl (.setTlsextStatusReqCb fp) => some fp
  | _ => none

private theorem callbacks_tlsextTicketKeys (ctx : SslCtx) (set : Bool) (larg : Int)
    (keys : Option (List UInt8)) :
    callbacks (tlsextTicketKeys ctx set larg keys).1 = callbacks ctx := by
  unfold tlsextTicketKeys
  split
  · rfl
  · split_ifs <;> rfl

private theorem callbacks_setTlsExtSrpUsername (k : Consts) (allocOk : Bool) (ctx : SslCtx)
    (name : Option (List UInt8)) :
    callbacks (setTlsExtSrpUsername k allocOk ctx name).1 =
      (ctx.srpCtx.srpMask ||| k.kSRP, ctx.statusCb) := by
  unfold setTlsExtSrpUsername
  split
  · rfl
  · split_ifs <;> rfl

private theorem callbacks_setTlsExtSrpPassword (allocOk : Bool) (ctx : SslCtx)
    (password : Option (List UInt8)) :
    callbacks (setTlsExtSrpPassword allocOk ctx password).1 = callbacks ctx := by
  unfold setTlsExtSrpPassword
  split
  · split_ifs <;> rfl
  · rfl

section Step

variable {k : Consts} {ctx : SslCtx}

/-- An entry point adds `SSL_kSRP` to the mask when it is an SRP command and installs the status
callback it names; it changes neither otherwise. -/
private theorem callbacks_ctxStep {op : CtxOp}
    (keeps : ∀ lib cmd, op = .ctrl lib cmd → LibKeepsCallbacks lib) :
    callbacks (ctxStep k ctx op) =
      (if enablesSrp op then ctx.srpCtx.srpMask ||| k.kSRP else ctx.srpCtx.srpMask,
        (installedStatusCb op).getD ctx.statusCb) := by
  cases op with
  | callbackCtrl cmd => cases cmd <;> rfl
  | ctrl lib cmd =>
    have lib_keeps := keeps lib cmd rfl
    cases cmd
    case setTmpDh dh => cases dh <;> [rfl; exact lib_keeps _ ctx]
    case setTmpEcdh ecdh => cases ecdh <;> [rfl; exact lib_keeps _ ctx]
    case setTlsextTicketKeys larg keys => exact callbacks_tlsextTicketKeys ctx true larg keys
    case getTlsextTicketKeys larg out => exact callbacks_tlsextTicketKeys ctx false larg _
    case setTlsExtSrpUsername name => exact callbacks_setTlsExtSrpUsername k lib.allocOk ctx name
    case setTlsExtSrpPassword password => exact callbacks_setTlsExtSrpPassword lib.allocOk ctx password
    case extraChainCert x509 =>
      show callbacks (extraChainCert lib ctx x509).1 = _
      rw [extraChainCert_frame]
      rfl
    case getExtraChainCerts larg =>
      show callbacks (if ctx.extraCerts.isNone && larg == 0 then (ctx, 1, _) else (ctx, 1, _)).1 = _
      split <;> rfl
    all_goals first
      | rfl
      | exact lib_keeps _ ctx

/-- Over a run, the mask gains `SSL_kSRP` exactly when the run has an SRP command, and the status
callback is the last one the run installs. -/
private theorem callbacks_ctxOpRun {ops : List CtxOp}
    (keeps : ∀ lib cmd, CtxOp.ctrl lib cmd ∈ ops → LibKeepsCallbacks lib) :
    callbacks (ctxOpRun k ctx ops) =
      (if ops.any enablesSrp then ctx.srpCtx.srpMask ||| k.kSRP else ctx.srpCtx.srpMask,
        (ops.filterMap installedStatusCb).getLastD ctx.statusCb) := by
  induction ops generalizing ctx with
  | nil => rfl
  | cons op ops ih =>
    have step : callbacks (ctxStep k ctx op) = _ :=
      callbacks_ctxStep fun lib cmd same => keeps lib cmd (same ▸ List.mem_cons_self _ _)
    simp only [callbacks, Prod.mk.injEq] at step
    rw [ctxOpRun, List.foldl_cons, ← ctxOpRun,
      ih fun lib cmd mem => keeps lib cmd (List.mem_cons_of_mem _ mem), step.1, step.2, List.any_cons]
    congr 1
    · cases enablesSrp op <;> cases ops.any enablesSrp <;> simp [Nat.or_assoc]
    · cases installed : installedStatusCb op <;>
        simp only [List.filterMap_cons, installed, List.getLastD_cons, Option.getD_some, Option.getD_none]

end Step

/-- A run that installs two status callbacks around an SRP user name, with library functions that
change nothing. -/
def sampleRun : List CtxOp :=
  [.callbackCtrl (.setTlsextStatusReqCb 5),
   .ctrl ⟨true, true, true, fun _ ctx => (ctx, 0)⟩ (.setTlsExtSrpUsername (some [0x61])),
   .callbackCtrl (.setTlsextStatusReqCb 7),
   .ctrl ⟨true, true, true, fun _ ctx => (ctx, 0)⟩ (.setTlsextStatusReqType 1)]

private theorem sampleRun_keeps : ∀ lib cmd, CtxOp.ctrl lib cmd ∈ sampleRun → LibKeepsCallbacks lib := by
  intro lib cmd mem
  simp only [sampleRun, List.mem_cons, CtxOp.ctrl.injEq, reduceCtorEq, List.mem_nil_iff, or_false,
    false_or] at mem
  rcases mem with ⟨rfl, -⟩ | ⟨rfl, -⟩ <;> exact fun _ _ => rfl

/-- Over any run of `ssl3_ctx_ctrl` and `ssl3_ctx_callback_ctrl` calls whose library functions
leave the SRP mask and the status callback alone, no bit of the mask is ever cleared, and `SSL_kSRP` is added exactly when
the run has an SRP command. -/
theorem ctxOpRun_srpMask (k : Consts) (ctx : SslCtx) (ops : List CtxOp)
    (keeps : ∀ lib cmd, CtxOp.ctrl lib cmd ∈ ops → LibKeepsCallbacks lib) :
    (ctxOpRun k ctx ops).srpCtx.srpMask =
      if ops.any enablesSrp then ctx.srpCtx.srpMask ||| k.kSRP else ctx.srpCtx.srpMask :=
  congrArg Prod.fst (callbacks_ctxOpRun keeps)

theorem ctxOpRun_srpMask_sample :
    (∀ lib cmd, CtxOp.ctrl lib cmd ∈ sampleRun → LibKeepsCallbacks lib) ∧
      (ctxOpRun Consts.release SslCtx.zeroKeys sampleRun).srpCtx.srpMask =
        if sampleRun.any enablesSrp then SslCtx.zeroKeys.srpCtx.srpMask ||| Consts.release.kSRP
        else SslCtx.zeroKeys.srpCtx.srpMask :=
  ⟨sampleRun_keeps, ctxOpRun_srpMask _ _ _ sampleRun_keeps⟩

/-- After any run of `ssl3_ctx_ctrl` and `ssl3_ctx_callback_ctrl` calls whose library functions
leave the SRP mask and the status callback alone, `SSL_CTRL_GET_TLSEXT_STATUS_REQ_CB` hands back the callback of
the run's last `SSL_CTRL_SET_TLSEXT_STATUS_REQ_CB`, or the context's first one if there is none. -/
theorem getTlsextStatusReqCb_after_run (k : Consts) (ctx : SslCtx) (ops : List CtxOp)
    (keeps : ∀ lib cmd, CtxOp.ctrl lib cmd ∈ ops → LibKeepsCallbacks lib) (lib : CtxLib) :
    (ssl3CtxCtrl k lib (ctxOpRun k ctx ops) .getTlsextStatusReqCb).2 =
      (1, .handle ((ops.filterMap installedStatusCb).getLastD ctx.statusCb)) :=
  congrArg (fun cbs => (1, Written.handle cbs.2)) (callbacks_ctxOpRun keeps)

theorem getTlsextStatusReqCb_after_run_sample :
    (∀ lib cmd, CtxOp.ctrl lib cmd ∈ sampleRun → LibKeepsCallbacks lib) ∧
      (ssl3CtxCtrl Consts.release ⟨true, true, true, fun _ ctx => (ctx, 0)⟩
          (ctxOpRun Consts.release SslCtx.zeroKeys sampleRun) .getTlsextStatusReqCb).2 =
        (1, .handle ((sampleRun.filterMap installedStatusCb).getLastD SslCtx.zeroKeys.statusCb)) :=
  ⟨sampleRun_keeps, getTlsextStatusReqCb_after_run _ _ _ sampleRun_keeps _⟩

end S3Lib.ContextCallbacks
