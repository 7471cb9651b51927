import S3Lib.Model.Ctrl

/-! # `ssl3_ctx_ctrl`

The control dispatcher of a context, in the style of `ssl3_ctrl`: typed commands, library calls
answered by a `CtxLib`, and the value stored through `parg` as `Written`. The session-ticket keys
are the three fixed-size arrays of the context, copied to and from one blob.
-/

namespace S3Lib

/-- What the functions outside `s3_lib.c` do in one `ssl3_ctx_ctrl` call: whether
`OPENSSL_strdup` and `OPENSSL_memdup` succeed, whether `sk_X509_new_null` returns a stack and
`sk_X509_push` succeeds, and what each `LibCall` does. -/
structure CtxLib where
  allocOk : Bool
  newStackOk : Bool
  pushOk : Bool
  call : LibCall → SslCtx → SslCtx × Int

/-- The commands of `ssl3_ctx_ctrl`, each with the arguments it reads. `getTlsextTicketKeys`
carries whether the destination buffer is non-`NULL`; `other` is a command code that no `case` of
the `switch` names. -/
inductive CtxCtrl where
  | setTmpDh (dh : Option Nat)
  | setTmpDhCb
  | setDhAuto (larg : Int)
  | setTmpEcdh (ecdh : Option Nat)
  | setTlsextServernameArg (arg : Nat)
  | setTlsextTicketKeys (larg : Int) (keys : Option (List UInt8))
  | getTlsextTicketKeys (larg : Int) (out : Bool)
  | getTlsextStatusReqType
  | setTlsextStatusReqType (larg : Int)
  | setTlsextStatusReqCbArg (arg : Nat)
  | getTlsextStatusReqCbArg
  | getTlsextStatusReqCb
  | setTlsExtSrpUsername (name : Option (List UInt8))
  | setTlsExtSrpPassword (password : Option (List UInt8))
  | setSrpArg (arg : Nat)
  | setTlsExtSrpStrength (larg : Int)
  | setGroups (larg : Int) (groups : Nat)
  | setGroupsList (list : List UInt8)
  | setSigalgs (larg : Int) (sigalgs : Nat)
  | setSigalgsList (list : List UInt8)
  | setClientSigalgs (larg : Int) (sigalgs : Nat)
  | setClientSigalgsList (list : List UInt8)
  | setClientCertTypes (larg : Int) (types : Option (List UInt8))
  | buildCertChain (larg : Int)
  | setVerifyCertStore (larg : Int) (store : Nat)
  | setChainCertStore (larg : Int) (store : Nat)
  | getVerifyCertStore
  | getChainCertStore
  | extraChainCert (x509 : Nat)
  | getExtraChainCerts (larg : Int)
  | clearExtraChainCerts
  | chain (larg : Int) (chain : Nat)
  | chainCert (larg : Int) (x509 : Nat)
  | getChainCerts
  | selectCurrentCert (x509 : Nat)
  | setCurrentCert (larg : Int)
  | other (cmd : Int)
deriving Repr

/-- `sizeof(tick_key_name) + sizeof(tick_hmac_key) + sizeof(tick_aes_key)`. -/
def tickKeylen (ctx : SslCtx) : Nat :=
  ctx.tickKeyName.size + ctx.tickHmacKey.size + ctx.tickAesKey.size

/-- The shared body of `SSL_CTRL_SET_TLSEXT_TICKET_KEYS` and `SSL_CTRL_GET_TLSEXT_TICKET_KEYS`:
`keys` is the source blob of a set, and `none` for a `NULL` buffer. -/
def tlsextTicketKeys (ctx : SslCtx) (set : Bool) (larg : Int) (keys : Option (List UInt8)) :
    SslCtx × Int × Written :=
  match keys with
  | none => (ctx, tickKeylen ctx, .nothing)
  | some blob =>
    if larg != tickKeylen ctx then (ctx, 0, .nothing)
    else if set then
      ({ ctx with
          tickKeyName := ctx.tickKeyName.copy blob 0
          tickHmacKey := ctx.tickHmacKey.copy blob ctx.tickKeyName.size
          tickAesKey := ctx.tickAesKey.copy blob (ctx.tickKeyName.size + ctx.tickHmacKey.size) },
        1, .nothing)
    else (ctx, 1, .bytes (some (ctx.tickKeyName.bytes ++ ctx.tickHmacKey.bytes ++ ctx.tickAesKey.bytes)))

/-- `SSL_CTRL_SET_TLS_EXT_SRP_USERNAME`. -/
def setTlsExtSrpUsername (k : Consts) (allocOk : Bool) (ctx : SslCtx)
    (name : Option (List UInt8)) : SslCtx × Int :=
  let ctx := { ctx with
    srpCtx := { ctx.srpCtx with srpMask := ctx.srpCtx.srpMask ||| k.kSRP, login := none } }
  match name with
  | none => (ctx, 1)
  | some n =>
    if n.length > 255 || n.length < 1 then (ctx, 0)
    else if !allocOk then (ctx, 0)
    else ({ ctx with srpCtx := { ctx.srpCtx with login := some n } }, 1)

/-- `SSL_CTRL_SET_TLS_EXT_SRP_PASSWORD`; `OPENSSL_strdup(NULL)` fails. -/
def setTlsExtSrpPassword (allocOk : Bool) (ctx : SslCtx) (password : Option (List UInt8)) :
    SslCtx × Int :=
  let ctx := { ctx with srpCtx := { ctx.srpCtx with pwdFromInfoCb := true, info := none } }
  match password with
  | some p => if allocOk then ({ ctx with srpCtx := { ctx.srpCtx with info := some p } }, 1) else (ctx, 0)
  | none => (ctx, 0)

/-- `SSL_CTRL_EXTRA_CHAIN_CERT`: `sk_X509_new_null` when the context has no stack yet, then
`sk_X509_push`. A failed push returns `0` and leaves the stack just made in place. -/
def extraChainCert (lib : CtxLib) (ctx : SslCtx) (x509 : Nat) : SslCtx × Int :=
  match ctx.extraCerts, lib.newStackOk with
  | none, false => (ctx, 0)
  | certs, _ =>
    let ctx := { ctx with extraCerts := some (certs.getD []) }
    if !lib.pushOk then (ctx, 0) else ({ ctx with extraCerts := some (certs.getD [] ++ [x509]) }, 1)

/-- `SSL_CTRL_EXTRA_CHAIN_CERT` changes nothing of the context but its extra certificates. -/
theorem extraChainCert_frame (lib : CtxLib) (ctx : SslCtx) (x509 : Nat) :
    (extraChainCert lib ctx x509).1 =
      { ctx with extraCerts := (extraChainCert lib ctx x509).1.extraCerts } := by
  unfold extraChainCert
  split
  · rfl
  · dsimp only
    split <;> rfl

/-- A command answered by a library call. -/
def ctxLibResult (lib : CtxLib) (call : LibCall) (ctx : SslCtx) : SslCtx × Int × Written :=
  let r := lib.call call ctx
  (r.1, r.2, .nothing)

/-- `ssl3_ctx_ctrl(ctx, cmd, larg, parg)`. -/
def ssl3CtxCtrl (k : Consts) (lib : CtxLib) (ctx : SslCtx) : CtxCtrl → SslCtx × Int × Written
  | .setTmpDh none => (ctx, 0, .nothing)
  | .setTmpDh (some dh) => ctxLibResult lib (.setTmpDh dh) ctx
  | .setTmpDhCb => (ctx, 0, .nothing)
  | .setDhAuto larg => ({ ctx with cert := { ctx.cert with dhTmpAuto := larg } }, 1, .nothing)
  | .setTmpEcdh none => (ctx, 0, .nothing)
  | .setTmpEcdh (some ecdh) => ctxLibResult lib (.setTmpEcdhGroups ecdh) ctx
  | .setTlsextServernameArg arg => ({ ctx with servernameArg := arg }, 1, .nothing)
  | .setTlsextTicketKeys larg keys => tlsextTicketKeys ctx true larg keys
  | .getTlsextTicketKeys larg out => tlsextTicketKeys ctx false larg (if out then some [] else none)
  | .getTlsextStatusReqType => (ctx, ctx.statusType, .nothing)
  | .setTlsextStatusReqType larg => ({ ctx with statusType := larg }, 1, .nothing)
  | .setTlsextStatusReqCbArg arg => ({ ctx with statusArg := arg }, 1, .nothing)
  | .getTlsextStatusReqCbArg => (ctx, 1, .handle ctx.statusArg)
  | .getTlsextStatusReqCb => (ctx, 1, .handle ctx.statusCb)
  | .setTlsExtSrpUsername name =>
    let r := setTlsExtSrpUsername k lib.allocOk ctx name
    (r.1, r.2, .nothing)
  | .setTlsExtSrpPassword password =>
    let r := setTlsExtSrpPassword lib.allocOk ctx password
    (r.1, r.2, .nothing)
  | .setSrpArg arg =>
    ({ ctx with srpCtx := { ctx.srpCtx with srpMask := ctx.srpCtx.srpMask ||| k.kSRP,
                                            srpCbArg := arg } }, 1, .nothing)
  | .setTlsExtSrpStrength larg =>
    ({ ctx with srpCtx := { ctx.srpCtx with strength := larg } }, 1, .nothing)
  | .setGroups larg groups => ctxLibResult lib (.setGroups groups larg) ctx
  | .setGroupsList list => ctxLibResult lib (.setGroupsList list) ctx
  | .setSigalgs larg sigalgs => ctxLibResult lib (.setSigalgs sigalgs larg false) ctx
  | .setSigalgsList list => ctxLibResult lib (.setSigalgsList list false) ctx
  | .setClientSigalgs larg sigalgs => ctxLibResult lib (.setSigalgs sigalgs larg true) ctx
  | .setClientSigalgsList list => ctxLibResult lib (.setSigalgsList list true) ctx
  | .setClientCertTypes larg types =>
    let r := ssl3SetReqCertType lib.allocOk ctx.cert types (sizeT larg)
    ({ ctx with cert := r.1 }, r.2, .nothing)
  | .buildCertChain larg => ctxLibResult lib (.buildCertChain larg) ctx
  | .setVerifyCertStore larg store => ctxLibResult lib (.setCertStore store false larg) ctx
  | .setChainCertStore larg store => ctxLibResult lib (.setCertStore store true larg) ctx
  | .getVerifyCertStore => ctxLibResult lib (.getCertStore false) ctx
  | .getChainCertStore => ctxLibResult lib (.getCertStore true) ctx
  | .extraChainCert x509 =>
    let r := extraChainCert lib ctx x509
    (r.1, r.2, .nothing)
  | .getExtraChainCerts larg =>
    if ctx.extraCerts.isNone && larg == 0 then (ctx, 1, .handle ctx.cert.keyChain)
    else (ctx, 1, .certs ctx.extraCerts)
  | .clearExtraChainCerts => ({ ctx with extraCerts := none }, 1, .nothing)
  | .chain larg chain =>
    ctxLibResult lib (if larg != 0 then .certSet1Chain chain else .certSet0Chain chain) ctx
  | .chainCert larg x509 =>
    ctxLibResult lib (if larg != 0 then .certAdd1ChainCert x509 else .certAdd0ChainCert x509) ctx
  | .getChainCerts => (ctx, 1, .handle ctx.cert.keyChain)
  | .selectCurrentCert x509 => ctxLibResult lib (.certSelectCurrent x509) ctx
  | .setCurrentCert larg => ctxLibResult lib (.certSetCurrent larg) ctx
  | .other _ => (ctx, 0, .nothing)

/-- The commands of `ssl3_ctx_callback_ctrl`, each with the function pointer it installs, and a
command code that no `case` of the `switch` names. -/
inductive CtxCallbackCtrl where
  | setTmpDhCb (fp : Nat)
  | setTlsextServernameCb (fp : Nat)
  | setTlsextStatusReqCb (fp : Nat)
  | setTlsextTicketKeyCb (fp : Nat)
  | setSrpVerifyParamCb (fp : Nat)
  | setTlsExtSrpUsernameCb (fp : Nat)
  | setSrpGiveClientPwdCb (fp : Nat)
  | setNotResumableSessCb (fp : Nat)
  | other (cmd : Int)
deriving Repr

/-- `ctx->srp_ctx.srp_Mask |= SSL_kSRP`. -/
def enableSrpMask (k : Consts) (ctx : SslCtx) : SslCtx :=
  { ctx with srpCtx := { ctx.srpCtx with srpMask := ctx.srpCtx.srpMask ||| k.kSRP } }

/-- `ssl3_ctx_callback_ctrl(ctx, cmd, fp)`. Of the slots that receive `fp` the model keeps
`ext.status_cb`, which `SSL_CTRL_GET_TLSEXT_STATUS_REQ_CB` reads; the others are read by no
function of the file. -/
def ssl3CtxCallbackCtrl (k : Consts) (ctx : SslCtx) : CtxCallbackCtrl → SslCtx × Int
  | .setTmpDhCb _ => (ctx, 1)
  | .setTlsextServernameCb _ => (ctx, 1)
  | .setTlsextStatusReqCb fp => ({ ctx with statusCb := fp }, 1)
  | .setTlsextTicketKeyCb _ => (ctx, 1)
  | .setSrpVerifyParamCb _ => (enableSrpMask k ctx, 1)
  | .setTlsExtSrpUsernameCb _ => (enableSrpMask k ctx, 1)
  | .setSrpGiveClientPwdCb _ => (enableSrpMask k ctx, 1)
  | .setNotResumableSessCb _ => (ctx, 1)
  | .other _ => (ctx, 0)

end S3Lib
