import S3Lib.Model.CtxCtrl

/-! # Rejected control commands, and commands before a session exists

The setters of `ssl3_ctrl` and `ssl3_ctx_ctrl` that reject their argument with `0` do so after
the host-name, SRP-user and certificate-type setters have already freed the value they replace:
a rejected call leaves the configuration as it was except for that one value (`sslClearedFirst`,
`ctxClearedFirst`). On a connection with no session every command returns, except
`SSL_CTRL_GET_NEGOTIATED_GROUP` outside a TLSv1.3 key exchange, which reads through the `NULL`
session.
-/

namespace S3Lib.CtrlErrors

open S3Lib

/-- The arguments that `ssl3_ctrl` itself rejects with `0`: a host name of another type, empty or
longer than `TLSEXT_MAXLEN_host_name`; a certificate-type list longer than 255 bytes; a `NULL`
DH or ECDH argument. -/
def SslRejected (k : Consts) : SslCtrl → Prop
  | .setTlsextHostname larg name =>
    larg ≠ k.nametypeHostName ∨ ∃ n, name = some n ∧ (n.length = 0 ∨ k.maxlenHostName < n.length)
  | .setClientCertTypes larg (some _) => 0xff < sizeT larg
  | .setTmpDh none => True
  | .setTmpEcdh none => True
  | _ => False

/-- The arguments that `ssl3_ctx_ctrl` itself rejects with `0`: a ticket-key blob of another
length, an SRP user name outside 1..255 bytes, a certificate-type list longer than 255 bytes, a
`NULL` DH or ECDH argument. -/
def CtxRejected (ctx : SslCtx) : CtxCtrl → Prop
  | .setTlsextTicketKeys larg (some _) => larg ≠ tickKeylen ctx
  | .setTlsExtSrpUsername (some n) => 255 < n.length ∨ n.length < 1
  | .setClientCertTypes larg (some _) => 0xff < sizeT larg
  | .setTmpDh none => True
  | .setTmpEcdh none => True
  | _ => False

/-- What an `ssl3_ctrl` setter has done before it rejects its argument: the host-name setter of
the right type has freed the stored name, the certificate-type setter of a server the stored
list. -/
def sslClearedFirst (k : Consts) (s : Ssl) : SslCtrl → Ssl
  | .setTlsextHostname larg _ =>
    if larg = k.nametypeHostName then { s with ext := { s.ext with hostname := none } } else s
  | .setClientCertTypes _ _ =>
    if s.server then { s with cert := { s.cert with ctype := none } } else s
  | _ => s

/-- What an `ssl3_ctx_ctrl` setter has done before it rejects its argument: the SRP-user setter
has set `SSL_kSRP` and freed the login, the certificate-type setter the stored list. -/
def ctxClearedFirst (k : Consts) (ctx : SslCtx) : CtxCtrl → SslCtx
  | .setTlsExtSrpUsername _ =>
    { ctx with srpCtx := { ctx.srpCtx with srpMask := ctx.srpCtx.srpMask ||| k.kSRP, login := none } }
  | .setClientCertTypes _ _ => { ctx with cert := { ctx.cert with ctype := none } }
  | _ => ctx

/-- `ssl3_set_req_cert_type` rejects a list longer than 255 bytes after freeing the stored one. -/
private theorem ssl3SetReqCertType_too_long (allocOk : Bool) (c : Cert) (types : List UInt8) (len : Nat)
    (long : 0xff < len) : ssl3SetReqCertType allocOk c (some types) len = ({ c with ctype := none }, 0) := by
  simp [ssl3SetReqCertType, long, show len ≠ 0 by omega]

/-- Every rejected host name leaves the connection as it was, but for the freed name when the
type was right. -/
private theorem setTlsextHostname_rejected (k : Consts) (allocOk : Bool) (s : Ssl) (larg : Int)
    (name : Option (List UInt8))
    (rejected : larg ≠ k.nametypeHostName ∨
      ∃ n, name = some n ∧ (n.length = 0 ∨ k.maxlenHostName < n.length)) :
    setTlsextHostname k allocOk s larg name =
      (if larg = k.nametypeHostName then { s with ext := { s.ext with hostname := none } } else s, 0) := by
  unfold setTlsextHostname
  by_cases right : larg = k.nametypeHostName
  · obtain ⟨n, rfl, bad⟩ := rejected.resolve_left (not_not.mpr right)
    simp only [right, beq_self_eq_true, if_true]
    rw [if_pos (by rcases bad with h | h <;> simp [h])]
  · simp [right]

/-- A command that `ssl3_ctrl` rejects returns `0` and leaves the connection as it was, except
for what `sslClearedFirst` says it freed first. -/
private theorem ssl3Ctrl_rejected (k : Consts) (lib : SslLib) (nids : NidMap) (s : Ssl) (cmd : SslCtrl)
    (rejected : SslRejected k cmd) :
    ssl3Ctrl k lib nids s cmd = some (sslClearedFirst k s cmd, 0, .nothing) := by
  cases cmd with
  | setTmpDh dh => cases dh <;> [rfl; exact False.elim rejected]
  | setTmpEcdh ecdh => cases ecdh <;> [rfl; exact False.elim rejected]
  | setTlsextHostname larg name =>
    exact congrArg (fun r => some (r.1, r.2, Written.nothing))
      (setTlsextHostname_rejected k lib.allocOk s larg name rejected)
  | setClientCertTypes larg types =>
    cases types with
    | none => exact False.elim rejected
    | some types =>
      show (if !s.server then _ else _) =
        some ((if s.server then { s with cert := { s.cert with ctype := none } } else s), 0, Written.nothing)
      by_cases server : s.server = true
      · rw [if_neg (by simpa using server), if_pos server]
        exact congrArg (fun r => some ({ s with cert := r.1 }, r.2, Written.nothing))
          (ssl3SetReqCertType_too_long lib.allocOk s.cert types _ rejected)
      · rw [if_pos (by simpa using server), if_neg server]
  | _ => exact False.elim rejected

/-- A command that `ssl3_ctx_ctrl` rejects returns `0` and leaves the context as it was, except
for what `ctxClearedFirst` says it freed first. -/
private theorem ssl3CtxCtrl_rejected (k : Consts) (clib : CtxLib) (ctx : SslCtx) (cmd : CtxCtrl)
    (rejected : CtxRejected ctx cmd) :
    ssl3CtxCtrl k clib ctx cmd = (ctxClearedFirst k ctx cmd, 0, .nothing) := by
  cases cmd with
  | setTmpDh dh => cases dh <;> [rfl; exact False.elim rejected]
  | setTmpEcdh ecdh => cases ecdh <;> [rfl; exact False.elim rejected]
  | setTlsextTicketKeys larg keys =>
    cases keys with
    | none => exact False.elim rejected
    | some blob =>
      have wrong : larg ≠ tickKeylen ctx := rejected
      show tlsextTicketKeys ctx true larg (some blob) = (ctx, 0, .nothing)
      simp [tlsextTicketKeys, wrong]
  | setTlsExtSrpUsername name =>
    cases name with
    | none => exact False.elim rejected
    | some n =>
      have bad : 255 < n.length ∨ n = [] :=
        rejected.imp_right fun short => List.length_eq_zero.mp (Nat.lt_one_iff.mp short)
      show (let r := setTlsExtSrpUsername k clib.allocOk ctx (some n); (r.1, r.2, Written.nothing)) = _
      simp [setTlsExtSrpUsername, ctxClearedFirst, bad]
  | setClientCertTypes larg types =>
    cases types with
    | none => exact False.elim rejected
    | some types =>
      exact congrArg (fun r => ({ ctx with cert := r.1 }, r.2, Written.nothing))
        (ssl3SetReqCertType_too_long clib.allocOk ctx.cert types _ rejected)
  | _ => exact False.elim rejected

/-- A call that `ssl3_ctrl` or `ssl3_ctx_ctrl` rejects returns `0` and leaves the connection or
context as it was, except for what `sslClearedFirst` and `ctxClearedFirst` say it freed first. -/
theorem ctrl_rejected_clears_first (k : Consts) (lib : SslLib) (nids : NidMap) (clib : CtxLib) :
    (∀ s cmd, SslRejected k cmd →
      ssl3Ctrl k lib nids s cmd = some (sslClearedFirst k s cmd, 0, .nothing)) ∧
    (∀ ctx cmd, CtxRejected ctx cmd →
      ssl3CtxCtrl k clib ctx cmd = (ctxClearedFirst k ctx cmd, 0, .nothing)) :=
  ⟨ssl3Ctrl_rejected k lib nids, ssl3CtxCtrl_rejected k clib⟩

/-- A library whose allocations succeed and whose calls return `0` and change nothing. -/
def inertLib : SslLib := ⟨true, fun _ s => (s, 0), fun _ _ => 0⟩

/-- A group table with no built-in group, mapping every id and NID to `0`. -/
def emptyNids : NidMap := ⟨fun _ => 0, fun _ => 0, 0x1000000, fun _ => false⟩

theorem setTlsextHostname_empty_drops_stored :
    let s : Ssl := { ctx := SslCtx.zeroKeys, ext := { hostname := some [0x61] } }
    SslRejected Consts.release (.setTlsextHostname 0 (some [])) ∧
      ∃ s', ssl3Ctrl Consts.release inertLib emptyNids s (.setTlsextHostname 0 (some [])) =
        some (s', 0, .nothing) ∧ s'.ext.hostname ≠ s.ext.hostname :=
  ⟨.inr ⟨[], rfl, .inl rfl⟩, _, rfl, by decide⟩

theorem ctrl_rejected_clears_first_hostname :
    let s : Ssl := { ctx := SslCtx.zeroKeys, ext := { hostname := some [0x61] } }
    SslRejected Consts.release (.setTlsextHostname 0 (some [])) ∧
      ssl3Ctrl Consts.release inertLib emptyNids s (.setTlsextHostname 0 (some [])) =
        some (sslClearedFirst Consts.release s (.setTlsextHostname 0 (some [])), 0, .nothing) :=
  ⟨.inr ⟨[], rfl, .inl rfl⟩, (ctrl_rejected_clears_first Consts.release inertLib emptyNids
    ⟨true, true, true, fun _ c => (c, 0)⟩).1 _ _ (.inr ⟨[], rfl, .inl rfl⟩)⟩

/-- `SSL_CTRL_GET_NEGOTIATED_GROUP` on a connection with no session that is not past a TLSv1.3
key exchange reads `s->session->kex_group` through the `NULL` session. -/
theorem ssl3Ctrl_getNegotiatedGroup_null_session (k : Consts) (lib : SslLib) (nids : NidMap)
    (s : Ssl) (noSession : s.session = none) (beforeKex : (s.isTls13 && s.s3.didKex) = false) :
    ssl3Ctrl k lib nids s .getNegotiatedGroup = none := by
  show (if s.isTls13 && s.s3.didKex then _ else _) = none
  rw [beforeKex, noSession]
  rfl

theorem ssl3Ctrl_getNegotiatedGroup_fresh :
    let s : Ssl := { ctx := SslCtx.zeroKeys }
    (s.session = none ∧ (s.isTls13 && s.s3.didKex) = false) ∧
      ssl3Ctrl Consts.release inertLib emptyNids s .getNegotiatedGroup = none :=
  ⟨⟨rfl, rfl⟩, ssl3Ctrl_getNegotiatedGroup_null_session _ _ _ _ rfl rfl⟩

/-- Without a session every command of `ssl3_ctrl` returns but `SSL_CTRL_GET_NEGOTIATED_GROUP`
outside a TLSv1.3 key exchange, and the other queries of the session return `0` and write
nothing. -/
theorem ssl3Ctrl_without_session (k : Consts) (lib : SslLib) (nids : NidMap) (s : Ssl)
    (noSession : s.session = none) :
    (∀ cmd, ssl3Ctrl k lib nids s cmd = none →
      cmd = .getNegotiatedGroup ∧ (s.isTls13 && s.s3.didKex) = false) ∧
    (∀ out, ssl3Ctrl k lib nids s (.getGroups out) = some (s, 0, .nothing)) ∧
    ssl3Ctrl k lib nids s .getPeerTmpKey = some (s, 0, .nothing) ∧
    ssl3Ctrl k lib nids s .getTmpKey = some (s, 0, .nothing) := by
  refine ⟨fun cmd faults => ?_, fun out => ?_, ?_, ?_⟩
  · rcases ssl3Ctrl_cases k lib nids s cmd with ⟨same, kex, -, -⟩ | ⟨r, ran, -⟩
    · exact ⟨same, kex⟩
    · cases ran.symm.trans faults
  · show (match s.session with | none => _ | some _ => _) = _
    rw [noSession]
  · show (match s.session, s.s3.peerTmp with | some _, some _ => _ | _, _ => _) = _
    rw [noSession]
  · show (match s.session, s.s3.tmp.pkey with | some _, some _ => _ | _, _ => _) = _
    rw [noSession]

theorem ssl3Ctrl_without_session_fresh :
    let s : Ssl := { ctx := SslCtx.zeroKeys }
    s.session = none ∧
      (∀ cmd, ssl3Ctrl Consts.release inertLib emptyNids s cmd = none →
        cmd = .getNegotiatedGroup ∧ (s.isTls13 && s.s3.didKex) = false) ∧
      (∀ out, ssl3Ctrl Consts.release inertLib emptyNids s (.getGroups out) = some (s, 0, .nothing)) ∧
      ssl3Ctrl Consts.release inertLib emptyNids s .getPeerTmpKey = some (s, 0, .nothing) ∧
      ssl3Ctrl Consts.release inertLib emptyNids s .getTmpKey = some (s, 0, .nothing) :=
  ⟨rfl, ssl3Ctrl_without_session _ _ _ _ rfl⟩

end S3Lib.CtrlErrors
