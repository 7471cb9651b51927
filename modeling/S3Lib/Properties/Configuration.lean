import S3Lib.Model.Io
import S3Lib.Model.Lifecycle
import S3Lib.Model.CtxCtrl

/-! # Stored configuration over whole runs

`ssl3_ctrl` and `ssl3_ctx_ctrl` store three byte strings after a length check: the host name of
a connection (`SSL_CTRL_SET_TLSEXT_HOSTNAME`, `1` to `TLSEXT_MAXLEN_host_name` bytes), the
certificate types of a connection or a context (`SSL_CTRL_SET_CLIENT_CERT_TYPES`, `1` to `255`
bytes) and the SRP user name of a context (`SSL_CTRL_SET_TLS_EXT_SRP_USERNAME`, `1` to `255`
bytes). Each setter forgets the stored value before its check, so a rejected call leaves nothing
behind. Over a run that interleaves the control commands with the other entry points of a
connection (`ssl3_read`, `ssl3_peek`, `ssl3_write`, `ssl3_shutdown`, the renegotiation functions
and `ssl3_clear`) what is stored stays within the bounds. The functions outside `s3_lib.c` that a
command hands its arguments to are assumed to leave these fields alone (`LibKeeps`).

The OCSP response length is stored without a check, as the `size_t` conversion of `larg`:
`SSL_CTRL_GET_TLSEXT_STATUS_REQ_OCSP_RESP` gives back a positive length and `-1` for `0` and for a
negative `larg`, which converts to a length above `LONG_MAX`.
-/

namespace S3Lib.Configuration

open S3Lib

/-- A stored byte string is absent or has between `1` and `max` bytes. -/
def Bounded (max : Nat) : Option (List UInt8) → Bool
  | none => true
  | some b => 0 < b.length && b.length ≤ max

/-- The byte strings a connection stores after a length check. -/
def stored (s : Ssl) : Option (List UInt8) × Option (List UInt8) := (s.ext.hostname, s.cert.ctype)

/-- What a connection stores after a length check is within the check's bounds. -/
def ConnOk (k : Consts) (s : Ssl) : Prop :=
  Bounded k.maxlenHostName (stored s).1 ∧ Bounded 0xff (stored s).2

/-- The byte strings a context stores after a length check. -/
def ctxStored (ctx : SslCtx) : Option (List UInt8) × Option (List UInt8) :=
  (ctx.cert.ctype, ctx.srpCtx.login)

/-- What a context stores after a length check is within the check's bounds. -/
def CtxOk (ctx : SslCtx) : Prop := Bounded 0xff (ctxStored ctx).1 ∧ Bounded 255 (ctxStored ctx).2

/-- The library functions leave the host name and the certificate types of a connection alone. -/
def LibKeeps (lib : SslLib) : Prop := ∀ call s, stored (lib.call call s).1 = stored s

/-- The library functions leave the certificate types and the SRP user name of a context alone. -/
def CtxLibKeeps (lib : CtxLib) : Prop := ∀ call ctx, ctxStored (lib.call call ctx).1 = ctxStored ctx

private theorem ConnOk.of_stored {k : Consts} {s s' : Ssl} (ok : ConnOk k s) (same : stored s' = stored s) :
    ConnOk k s' := by
  unfold ConnOk
  rw [same]
  exact ok

private theorem CtxOk.of_stored {ctx ctx' : SslCtx} (ok : CtxOk ctx) (same : ctxStored ctx' = ctxStored ctx) :
    CtxOk ctx' := by
  unfold CtxOk
  rw [same]
  exact ok

private theorem bounded_some {max : Nat} {b : List UInt8} :
    Bounded max (some b) ↔ 0 < b.length ∧ b.length ≤ max := by
  simp [Bounded]

/-! ### The setters -/

/-- `ssl3_set_req_cert_type` leaves a list within bounds, whatever was stored before. -/
private theorem bounded_ssl3SetReqCertType (allocOk : Bool) (c : Cert) (p : Option (List UInt8))
    (len : Nat) : Bounded 0xff (ssl3SetReqCertType allocOk c p len).1.ctype := by
  unfold ssl3SetReqCertType
  cases p with
  | none => rfl
  | some bytes =>
    dsimp only
    split_ifs with empty long
    · rfl
    · rfl
    · rfl
    · simp only [beq_iff_eq, gt_iff_lt, not_lt] at empty long
      exact bounded_some.mpr (by simp only [length_readBytes]; omega)

/-- `SSL_CTRL_SET_TLSEXT_HOSTNAME` of the host-name type leaves a name within bounds, whatever was
stored before; of another type it changes nothing. -/
private theorem bounded_setTlsextHostname (k : Consts) (allocOk : Bool) (s : Ssl) (larg : Int)
    (name : Option (List UInt8)) (ok : Bounded k.maxlenHostName s.ext.hostname) :
    Bounded k.maxlenHostName (setTlsextHostname k allocOk s larg name).1.ext.hostname := by
  unfold setTlsextHostname
  split
  · cases name with
    | none => rfl
    | some n =>
      dsimp only
      split_ifs with bad
      · rfl
      · rfl
      · simp only [Bool.or_eq_true, beq_iff_eq, decide_eq_true_eq, not_or] at bad
        exact bounded_some.mpr (by omega)
  · exact ok

private theorem ctype_setTlsextHostname (k : Consts) (allocOk : Bool) (s : Ssl) (larg : Int)
    (name : Option (List UInt8)) : (setTlsextHostname k allocOk s larg name).1.cert = s.cert := by
  unfold setTlsextHostname
  split
  · cases name with
    | none => rfl
    | some n =>
      dsimp only
      split_ifs <;> rfl
  · rfl

/-- `SSL_CTRL_SET_TLS_EXT_SRP_USERNAME` leaves a user name within bounds, whatever was stored
before. -/
private theorem bounded_setTlsExtSrpUsername (k : Consts) (allocOk : Bool) (ctx : SslCtx)
    (name : Option (List UInt8)) :
    Bounded 255 (setTlsExtSrpUsername k allocOk ctx name).1.srpCtx.login := by
  unfold setTlsExtSrpUsername
  cases name with
  | none => rfl
  | some n =>
    dsimp only
    split_ifs with bad
    · rfl
    · rfl
    · simp only [Bool.or_eq_true, decide_eq_true_eq, not_or] at bad
      exact bounded_some.mpr (by omega)

private theorem ctype_setTlsExtSrpUsername (k : Consts) (allocOk : Bool) (ctx : SslCtx)
    (name : Option (List UInt8)) : (setTlsExtSrpUsername k allocOk ctx name).1.cert = ctx.cert := by
  unfold setTlsExtSrpUsername
  cases name with
  | none => rfl
  | some n =>
    dsimp only
    split_ifs <;> rfl

private theorem ctxStored_tlsextTicketKeys (ctx : SslCtx) (set : Bool) (larg : Int) (keys : Option (List UInt8)) :
    ctxStored (tlsextTicketKeys ctx set larg keys).1 = ctxStored ctx := by
  unfold tlsextTicketKeys
  split
  · rfl
  · split_ifs <;> rfl

private theorem ctxStored_setTlsExtSrpPassword (allocOk : Bool) (ctx : SslCtx) (password : Option (List UInt8)) :
    ctxStored (setTlsExtSrpPassword allocOk ctx password).1 = ctxStored ctx := by
  unfold setTlsExtSrpPassword
  split
  · split_ifs <;> rfl
  · rfl

/-! ### The control commands -/

section Ctrl

variable {k : Consts} {lib : SslLib} {nids : NidMap} {s : Ssl} {cmd : SslCtrl}
  {r : Ssl × Int × Written}

/-- A command of `ssl3_ctrl` stores a host name only through the host-name setter and certificate
types only through their setter; every other command keeps both, given `LibKeeps`. -/
private theorem ssl3Ctrl_stored (keeps : LibKeeps lib) (ran : ssl3Ctrl k lib nids s cmd = some r) :
    (∃ larg name, cmd = .setTlsextHostname larg name ∧
      r.1 = (setTlsextHostname k lib.allocOk s larg name).1) ∨
    (∃ larg types, cmd = .setClientCertTypes larg types ∧
      r.1 = { s with cert := (ssl3SetReqCertType lib.allocOk s.cert types (sizeT larg)).1 }) ∨
    stored r.1 = stored s := by
  rcases ssl3Ctrl_cases k lib nids s cmd with ⟨-, -, -, faults⟩ | ⟨r', ran', effect⟩
  · cases ran.symm.trans faults
  obtain rfl : r' = r := Option.some.inj (ran'.symm.trans ran)
  rcases effect with ⟨call, called⟩ | hostname | types | framed
  · exact .inr (.inr (called ▸ keeps call s))
  · exact .inl hostname
  · exact .inr (.inl types)
  · refine .inr (.inr ?_)
    rw [framed]
    rfl

/-- Every command of `ssl3_ctrl` keeps what the connection stores within bounds. -/
theorem ConnOk.ssl3Ctrl (keeps : LibKeeps lib) (ok : ConnOk k s)
    (ran : ssl3Ctrl k lib nids s cmd = some r) : ConnOk k r.1 := by
  obtain ⟨larg, name, -, set⟩ | ⟨larg, types, -, set⟩ | same := ssl3Ctrl_stored keeps ran
  · rw [set]
    refine ⟨bounded_setTlsextHostname k lib.allocOk s larg name ok.1, ?_⟩
    simpa only [stored, ctype_setTlsextHostname] using ok.2
  · rw [set]
    exact ⟨ok.1, bounded_ssl3SetReqCertType _ _ _ _⟩
  · exact ok.of_stored same

end Ctrl

section CtxCtrl

variable {k : Consts} {lib : CtxLib} {ctx : SslCtx} {cmd : CtxCtrl}

/-- A command of `ssl3_ctx_ctrl` stores certificate types only through their setter and a user
name only through the SRP user-name setter; every other command keeps both, given
`CtxLibKeeps`. -/
private theorem ssl3CtxCtrl_stored (keeps : CtxLibKeeps lib) :
    (∃ larg types, cmd = .setClientCertTypes larg types ∧
      (ssl3CtxCtrl k lib ctx cmd).1 =
        { ctx with cert := (ssl3SetReqCertType lib.allocOk ctx.cert types (sizeT larg)).1 }) ∨
    (∃ name, cmd = .setTlsExtSrpUsername name ∧
      (ssl3CtxCtrl k lib ctx cmd).1 = (setTlsExtSrpUsername k lib.allocOk ctx name).1) ∨
    ctxStored (ssl3CtxCtrl k lib ctx cmd).1 = ctxStored ctx := by
  cases cmd
  case setClientCertTypes larg types => exact .inl ⟨larg, types, rfl, rfl⟩
  case setTlsExtSrpUsername name => exact .inr (.inl ⟨name, rfl, rfl⟩)
  all_goals refine .inr (.inr ?_)
  case setTmpDh dh => cases dh <;> [rfl; exact keeps _ ctx]
  case setTmpEcdh ecdh => cases ecdh <;> [rfl; exact keeps _ ctx]
  case setTlsextTicketKeys larg keys => exact ctxStored_tlsextTicketKeys ctx true larg keys
  case getTlsextTicketKeys larg out => exact ctxStored_tlsextTicketKeys ctx false larg _
  case setTlsExtSrpPassword password => exact ctxStored_setTlsExtSrpPassword lib.allocOk ctx password
  case extraChainCert x509 =>
    show ctxStored (extraChainCert lib ctx x509).1 = _
    rw [extraChainCert_frame]
    rfl
  case getExtraChainCerts larg =>
    show ctxStored (if ctx.extraCerts.isNone && larg == 0 then (ctx, 1, _) else (ctx, 1, _)).1 = _
    split <;> rfl
  all_goals first
    | rfl
    | exact keeps _ ctx

/-- Every command of `ssl3_ctx_ctrl` keeps what the context stores within bounds. -/
theorem CtxOk.ssl3CtxCtrl (keeps : CtxLibKeeps lib) (ok : CtxOk ctx) :
    CtxOk (ssl3CtxCtrl k lib ctx cmd).1 := by
  obtain ⟨larg, types, -, set⟩ | ⟨name, -, set⟩ | same := ssl3CtxCtrl_stored keeps
  · rw [set]
    exact ⟨bounded_ssl3SetReqCertType _ _ _ _, ok.2⟩
  · rw [set]
    refine ⟨?_, bounded_setTlsExtSrpUsername k lib.allocOk ctx name⟩
    simpa only [ctxStored, ctype_setTlsExtSrpUsername] using ok.1
  · exact ok.of_stored same

end CtxCtrl

/-! ### The OCSP response -/

/-- A `long` converted to `size_t` is `0` or above `LONG_MAX` exactly when it is not positive. -/
private theorem sizeT_sentinel {larg : Int} (isLong : -2 ^ 63 ≤ larg ∧ larg < 2 ^ 63) :
    (sizeT larg = 0 ∨ 2 ^ 63 - 1 < sizeT larg) ↔ larg ≤ 0 := by
  unfold sizeT
  omega

private theorem sizeT_of_pos {larg : Int} (pos : 0 < larg) (isLong : larg < 2 ^ 63) : (sizeT larg : Int) = larg := by
  unfold sizeT
  omega

/-- After `SSL_CTRL_SET_TLSEXT_STATUS_REQ_OCSP_RESP` with a `long` length, the getter returns the
response and the length when it is positive, and `-1` otherwise. -/
theorem getOcspResp_after_set (k : Consts) (lib : SslLib) (nids : NidMap) (s : Ssl) (larg : Int)
    (resp : Option Buf) (longMax : k.longMax = 2 ^ 63 - 1) (isLong : -2 ^ 63 ≤ larg ∧ larg < 2 ^ 63) :
    ∃ s', ssl3Ctrl k lib nids s (.setTlsextStatusReqOcspResp larg resp) = some (s', 1, .nothing) ∧
      ssl3Ctrl k lib nids s' .getTlsextStatusReqOcspResp =
        some (s', if 0 < larg then larg else -1, .buf resp) := by
  refine ⟨_, rfl, ?_⟩
  show (if _ then _ else _) = _
  have sentinel := sizeT_sentinel isLong
  by_cases pos : 0 < larg
  · rw [if_neg (by simp only [longMax, Bool.or_eq_true, beq_iff_eq, decide_eq_true_eq]; omega),
      if_pos pos, sizeT_of_pos pos isLong.2]
  · rw [if_pos (by simp only [longMax, Bool.or_eq_true, beq_iff_eq, decide_eq_true_eq]; omega),
      if_neg pos]

theorem getOcspResp_after_set_negative :
    let s : Ssl := { ctx := SslCtx.zeroKeys }
    let lib : SslLib := ⟨true, fun _ s => (s, 0), fun _ _ => 0⟩
    let nids : NidMap := ⟨fun _ => 0, fun _ => 0, 0x1000000, fun _ => false⟩
    (Consts.release.longMax = 2 ^ 63 - 1 ∧ -2 ^ 63 ≤ (-1 : Int) ∧ (-1 : Int) < 2 ^ 63) ∧
      ∃ s', ssl3Ctrl Consts.release lib nids s (.setTlsextStatusReqOcspResp (-1) (some ⟨1, [0x30]⟩)) =
          some (s', 1, .nothing) ∧
        ssl3Ctrl Consts.release lib nids s' .getTlsextStatusReqOcspResp =
          some (s', if 0 < (-1 : Int) then -1 else -1, .buf (some ⟨1, [0x30]⟩)) :=
  ⟨⟨rfl, by decide, by decide⟩, getOcspResp_after_set _ _ _ _ _ _ rfl ⟨by decide, by decide⟩⟩

/-! ### The other entry points of a connection -/

private theorem stored_ssl3Renegotiate (s : Ssl) : stored (ssl3Renegotiate s).1 = stored s := by
  unfold ssl3Renegotiate
  split <;> rfl

private theorem stored_ssl3RenegotiateCheck (rl : RecordStatus) (s : Ssl) (initok : Bool) :
    stored (ssl3RenegotiateCheck rl s initok).1 = stored s := by
  unfold ssl3RenegotiateCheck
  split <;> rfl

private theorem stored_checkPendingRenegotiation (rl : RecordStatus) (s : Ssl) :
    stored (checkPendingRenegotiation rl s).1 = stored s := by
  unfold checkPendingRenegotiation
  split
  · exact stored_ssl3RenegotiateCheck rl s false
  · rfl

private theorem stored_ssl3ReadInternal (rl : RecordStatus) (out : ReadOutcome) (s : Ssl) (peek : Bool) :
    stored (ssl3ReadInternal rl out s peek).1 = stored s := by
  unfold ssl3ReadInternal
  dsimp only
  split_ifs <;> exact stored_checkPendingRenegotiation rl s

private theorem stored_ssl3Shutdown (env : ShutdownEnv) (s : Ssl) : stored (ssl3Shutdown env s).1 = stored s := by
  have branch : stored (shutdownBranch env s).1 = stored s := by
    unfold shutdownBranch
    cases s.shutdown.sent <;> cases s.s3.alertDispatch <;> cases s.shutdown.received <;> rfl
  unfold ssl3Shutdown
  split_ifs
  · rfl
  · dsimp only
    split <;> exact branch

private theorem stored_ssl3Clear (k : Consts) (wbioOk : Bool) (s : Ssl) : stored (ssl3Clear k wbioOk s).1 = stored s := by
  cases wbioOk <;> rfl

/-! ### Runs -/

/-- The entry points of a connection that a run interleaves, each with what the functions outside
`s3_lib.c` do in that call. -/
inductive ConnOp where
  | ctrl (lib : SslLib) (cmd : SslCtrl)
  | renegotiate
  | check (rl : RecordStatus) (initok : Bool)
  | read (rl : RecordStatus) (out : ReadOutcome)
  | peek (rl : RecordStatus) (out : ReadOutcome)
  | write (rl : RecordStatus) (written : Int)
  | shutdown (env : ShutdownEnv)
  | clear (wbioOk : Bool)

/-- One entry point; `none` where `ssl3_ctrl` reads through a `NULL` session. -/
def connStep (k : Consts) (nids : NidMap) (s : Ssl) : ConnOp → Option Ssl
  | .ctrl lib cmd => (ssl3Ctrl k lib nids s cmd).map (·.1)
  | .renegotiate => some (ssl3Renegotiate s).1
  | .check rl initok => some (ssl3RenegotiateCheck rl s initok).1
  | .read rl out => some (ssl3Read rl out s).1
  | .peek rl out => some (ssl3Peek rl out s).1
  | .write rl written => some (ssl3Write rl written s).1
  | .shutdown env => some (ssl3Shutdown env s).1
  | .clear wbioOk => some (ssl3Clear k wbioOk s).1

/-- A run of a connection: the entry points in order, up to a `NULL` read. -/
def connRun (k : Consts) (nids : NidMap) : Ssl → List ConnOp → Option Ssl
  | s, [] => some s
  | s, op :: ops => (connStep k nids s op).bind fun s => connRun k nids s ops

/-- A run of a context: the commands of `ssl3_ctx_ctrl` in order. -/
def ctxRun (k : Consts) : SslCtx → List (CtxLib × CtxCtrl) → SslCtx
  | ctx, [] => ctx
  | ctx, (lib, cmd) :: cmds => ctxRun k (ssl3CtxCtrl k lib ctx cmd).1 cmds

/-- The library functions of every control command of a run keep the stored strings. -/
def RunKeeps (ops : List ConnOp) : Prop := ∀ lib cmd, ConnOp.ctrl lib cmd ∈ ops → LibKeeps lib

theorem ConnOk.connStep {k : Consts} {nids : NidMap} {s s' : Ssl} {op : ConnOp} (ok : ConnOk k s)
    (keeps : ∀ lib cmd, op = .ctrl lib cmd → LibKeeps lib) (ran : connStep k nids s op = some s') :
    ConnOk k s' := by
  cases op with
  | ctrl lib cmd =>
    obtain ⟨r, called, rfl⟩ := Option.map_eq_some'.mp ran
    exact ok.ssl3Ctrl (keeps lib cmd rfl) called
  | renegotiate => cases ran; exact ok.of_stored (stored_ssl3Renegotiate s)
  | check rl initok => cases ran; exact ok.of_stored (stored_ssl3RenegotiateCheck rl s initok)
  | read rl out => cases ran; exact ok.of_stored (stored_ssl3ReadInternal rl out s false)
  | peek rl out => cases ran; exact ok.of_stored (stored_ssl3ReadInternal rl out s true)
  | write rl written => cases ran; exact ok.of_stored (stored_checkPendingRenegotiation rl s)
  | shutdown env => cases ran; exact ok.of_stored (stored_ssl3Shutdown env s)
  | clear wbioOk => cases ran; exact ok.of_stored (stored_ssl3Clear k wbioOk s)

/-- Over any run of a connection whose control commands' library functions leave the stored
strings alone, the host name and the certificate types a connection stores stay within the
bounds of their setters' checks: every state the run reaches has them, given the first one has. -/
theorem connRun_bounded (k : Consts) (nids : NidMap) (s : Ssl) (ops : List ConnOp)
    (ok : ConnOk k s) (keeps : RunKeeps ops) : ∀ s' ∈ connRun k nids s ops, ConnOk k s' := by
  induction ops generalizing s with
  | nil => rintro s' ⟨⟩; exact ok
  | cons op ops ih =>
    intro s' reached
    obtain ⟨next, step, rest⟩ := Option.bind_eq_some.mp reached
    exact ih next (ok.connStep (fun lib cmd same => keeps lib cmd (same ▸ List.mem_cons_self _ _)) step)
      (fun lib cmd mem => keeps lib cmd (List.mem_cons_of_mem _ mem)) s' rest

theorem connRun_bounded_fresh :
    let s : Ssl := { ctx := SslCtx.zeroKeys }
    let lib : SslLib := ⟨true, fun _ s => (s, 0), fun _ _ => 0⟩
    let ops := [ConnOp.ctrl lib (.setTlsextHostname 0 (some [0x61])), .renegotiate,
      .ctrl lib (.setClientCertTypes 2 (some [1, 64])), .clear true]
    ConnOk Consts.release s ∧ RunKeeps ops ∧
      ∀ s' ∈ connRun Consts.release ⟨fun _ => 0, fun _ => 0, 0x1000000, fun _ => false⟩ s ops,
        ConnOk Consts.release s' := by
  intro s lib ops
  have ok : ConnOk Consts.release s := ⟨rfl, rfl⟩
  have keeps : RunKeeps ops := by
    intro l cmd mem
    simp only [ops, List.mem_cons, ConnOp.ctrl.injEq, reduceCtorEq, List.mem_nil_iff, or_false, false_or] at mem
    rcases mem with ⟨same, -⟩ | ⟨same, -⟩ <;> exact same ▸ fun _ _ => rfl
  exact ⟨ok, keeps, connRun_bounded _ _ s ops ok keeps⟩

/-- Over any run of a context whose commands' library functions leave the stored strings alone,
the certificate types and the SRP user name a context stores stay within the bounds of their
setters' checks. -/
theorem ctxRun_bounded (k : Consts) (ctx : SslCtx) (cmds : List (CtxLib × CtxCtrl)) (ok : CtxOk ctx)
    (keeps : ∀ p ∈ cmds, CtxLibKeeps p.1) : CtxOk (ctxRun k ctx cmds) := by
  induction cmds generalizing ctx with
  | nil => exact ok
  | cons p cmds ih =>
    exact ih _ (ok.ssl3CtxCtrl (keeps p (List.mem_cons_self _ _)))
      (fun q mem => keeps q (List.mem_cons_of_mem _ mem))

theorem ctxRun_bounded_zeroKeys :
    let lib : CtxLib := ⟨true, true, true, fun _ ctx => (ctx, 0)⟩
    let cmds := [(lib, CtxCtrl.setTlsExtSrpUsername (some [0x61])),
      (lib, .setClientCertTypes 2 (some [1, 64])), (lib, .setTlsExtSrpUsername (some []))]
    CtxOk SslCtx.zeroKeys ∧ (∀ p ∈ cmds, CtxLibKeeps p.1) ∧
      CtxOk (ctxRun Consts.release SslCtx.zeroKeys cmds) := by
  intro lib cmds
  have ok : CtxOk SslCtx.zeroKeys := ⟨rfl, rfl⟩
  have keeps : ∀ p ∈ cmds, CtxLibKeeps p.1 := by
    intro p mem
    simp only [cmds, List.mem_cons, List.mem_nil_iff, or_false] at mem
    rcases mem with rfl | rfl | rfl <;> exact fun _ _ => rfl
  exact ⟨ok, keeps, ctxRun_bounded _ _ cmds ok keeps⟩

end S3Lib.Configuration
