import S3Lib.Model.State

/-! # `ssl3_ctrl` and `SSL_group_to_name`

The control dispatcher of a connection. Each command is a constructor carrying the `larg` and
`parg` it reads, typed; `Written` is what a getter stores through `parg`. The library functions
that a command only passes its arguments to are one `LibCall`, answered by an `SslLib` whose
effect on the connection is unconstrained. `ssl3Ctrl` returns `none` where `ssl3_ctrl` reads
through a `NULL` session. Buffer releases of the dispatcher are not logged.
-/

namespace S3Lib

/-- `tls1_group_id2nid(id, 1)`, `tls1_nid2group_id` and `TLSEXT_nid_unknown` (`t1_lib.c` and
`tls1.h`, not under `src/`), and the group ids of their built-in `nid_to_group` table. -/
structure NidMap where
  groupId2nid : UInt16 → Nat
  nid2groupId : Nat → UInt16
  nidUnknown : Nat
  builtin : UInt16 → Bool

/-- Modelled from the spec: `tls1_group_id_lookup` (`t1_lib.c`) is not under `src/`; the spec has
it look the group up in the context's configuration, here the first entry of `group_list` with
that id. -/
def tls1GroupIdLookup (ctx : SslCtx) (id : UInt16) : Option GroupInfo :=
  ctx.groupList.find? (·.groupId == id)

/-- `SSL_group_to_name(s, nid)` for a non-negative `nid`. -/
def sslGroupToName (nids : NidMap) (s : Ssl) (nid : Nat) : Option String :=
  let groupId : UInt16 :=
    if nid &&& nids.nidUnknown != 0 then UInt16.ofNat (nid &&& 0xFFFF) else nids.nid2groupId nid
  (tls1GroupIdLookup s.ctx groupId).map (·.tlsname)

/-- What a getter stores through `parg`. -/
inductive Written where
  | nothing
  | handle (h : Nat)
  | buf (b : Option Buf)
  | bytes (b : Option (List UInt8))
  | nids (nids : List Nat)
  | hash (nid : Int)
  | certs (certs : Option (List Nat))
deriving DecidableEq, Repr

/-- The calls of the dispatchers into functions outside `s3_lib.c` whose result they return;
`setTmpDh` is `ssl_dh_to_pkey(parg)` followed by `SSL_set0_tmp_dh_pkey` or
`SSL_CTX_set0_tmp_dh_pkey`. -/
inductive LibCall where
  | setTmpDh (dh : Nat)
  | setTmpEcdhGroups (ecdh : Nat)
  | certSet1Chain (chain : Nat)
  | certSet0Chain (chain : Nat)
  | certAdd1ChainCert (x509 : Nat)
  | certAdd0ChainCert (x509 : Nat)
  | certSelectCurrent (x509 : Nat)
  | certSetCurrent (op : Int)
  | setGroups (groups : Nat) (len : Int)
  | setGroupsList (list : List UInt8)
  | setSigalgs (sigalgs : Nat) (len : Int) (client : Bool)
  | setSigalgsList (list : List UInt8) (client : Bool)
  | buildCertChain (flags : Int)
  | setCertStore (store : Nat) (chain : Bool) (ref : Int)
  | getCertStore (chain : Bool)
deriving DecidableEq, Repr

/-- What the functions outside `s3_lib.c` do in one `ssl3_ctrl` call: whether `OPENSSL_strdup`
and `OPENSSL_memdup` succeed, what each `LibCall` does, and `tls1_shared_group(s, n)`. -/
structure SslLib where
  allocOk : Bool
  call : LibCall → Ssl → Ssl × Int
  sharedGroup : Ssl → Int → UInt16

/-- `(size_t)larg` on a 64-bit platform. -/
def sizeT (larg : Int) : Nat := (larg % 2 ^ 64).toNat

/-- `ssl3_set_req_cert_type(c, p, len)`; `allocOk` is the outcome of `OPENSSL_memdup`. -/
def ssl3SetReqCertType (allocOk : Bool) (c : Cert) (p : Option (List UInt8)) (len : Nat) :
    Cert × Int :=
  let c := { c with ctype := none }
  match p with
  | none => (c, 1)
  | some bytes =>
    if len == 0 then (c, 1)
    else if len > 0xff then (c, 0)
    else if !allocOk then (c, 0)
    else ({ c with ctype := some (readBytes bytes 0 len) }, 1)

/-- The commands of `ssl3_ctrl`, each with the arguments it reads. `getGroups` and
`getClientCertTypes` carry whether `parg` is non-`NULL`; `other` is a command code that no `case`
of the `switch` names. -/
inductive SslCtrl where
  | getClientCertRequest
  | getNumRenegotiations
  | clearNumRenegotiations
  | getTotalRenegotiations
  | getFlags
  | setTmpDh (dh : Option Nat)
  | setTmpDhCb
  | setDhAuto (larg : Int)
  | setTmpEcdh (ecdh : Option Nat)
  | setTlsextHostname (larg : Int) (name : Option (List UInt8))
  | setTlsextDebugArg (arg : Nat)
  | getTlsextStatusReqType
  | setTlsextStatusReqType (larg : Int)
  | getTlsextStatusReqExts
  | setTlsextStatusReqExts (exts : Nat)
  | getTlsextStatusReqIds
  | setTlsextStatusReqIds (ids : Nat)
  | getTlsextStatusReqOcspResp
  | setTlsextStatusReqOcspResp (larg : Int) (resp : Option Buf)
  | chain (larg : Int) (chain : Nat)
  | chainCert (larg : Int) (x509 : Nat)
  | getChainCerts
  | selectCurrentCert (x509 : Nat)
  | setCurrentCert (larg : Int)
  | getGroups (out : Bool)
  | setGroups (larg : Int) (groups : Nat)
  | setGroupsList (list : List UInt8)
  | getSharedGroup (larg : Int)
  | getNegotiatedGroup
  | setSigalgs (larg : Int) (sigalgs : Nat)
  | setSigalgsList (list : List UInt8)
  | setClientSigalgs (larg : Int) (sigalgs : Nat)
  | setClientSigalgsList (list : List UInt8)
  | getClientCertTypes (out : Bool)
  | setClientCertTypes (larg : Int) (types : Option (List UInt8))
  | buildCertChain (larg : Int)
  | setVerifyCertStore (larg : Int) (store : Nat)
  | setChainCertStore (larg : Int) (store : Nat)
  | getVerifyCertStore
  | getChainCertStore
  | getPeerSignatureNid
  | getSignatureNid
  | getPeerTmpKey
  | getTmpKey
  | getEcPointFormats
  | other (cmd : Int)
deriving Repr

/-- The value `SSL_CTRL_GET_GROUPS` writes for one group id of the peer. -/
def getGroupsEntry (nids : NidMap) (ctx : SslCtx) (id : UInt16) : Nat :=
  match tls1GroupIdLookup ctx id with
  | some cinf => nids.groupId2nid cinf.groupId
  | none => nids.nidUnknown ||| id.toNat

/-- A command answered by a library call, which writes nothing the model follows. -/
def libResult (lib : SslLib) (call : LibCall) (s : Ssl) : Option (Ssl × Int × Written) :=
  let r := lib.call call s
  some (r.1, r.2, .nothing)

/-- `SSL_CTRL_SET_TLSEXT_HOSTNAME`. -/
def setTlsextHostname (k : Consts) (allocOk : Bool) (s : Ssl) (larg : Int)
    (name : Option (List UInt8)) : Ssl × Int :=
  if larg == k.nametypeHostName then
    let s := { s with ext := { s.ext with hostname := none } }
    match name with
    | none => (s, 1)
    | some n =>
      if n.length == 0 || n.length > k.maxlenHostName then (s, 0)
      else if !allocOk then (s, 0)
      else ({ s with ext := { s.ext with hostname := some n } }, 1)
  else (s, 0)

/-- `SSL_CTRL_SET_CURRENT_CERT` with `larg == SSL_CERT_SET_SERVER`. -/
def setCurrentCertServer (k : Consts) (s : Ssl) : Ssl × Int :=
  if !s.server then (s, 0)
  else match s.s3.tmp.newCipher with
    | none => (s, 0)
    | some c =>
      if c.algorithmAuth &&& (k.aNULL ||| k.aSRP) != 0 then (s, 2)
      else match s.s3.tmp.cert with
        | none => (s, 0)
        | some tc => ({ s with cert := { s.cert with key := tc } }, 1)

/-- `ssl3_ctrl(s, cmd, larg, parg)`. -/
def ssl3Ctrl (k : Consts) (lib : SslLib) (nids : NidMap) (s : Ssl) :
    SslCtrl → Option (Ssl × Int × Written)
  | .getClientCertRequest => some (s, 0, .nothing)
  | .getNumRenegotiations => some (s, s.s3.numRenegotiations, .nothing)
  | .clearNumRenegotiations =>
    some ({ s with s3 := { s.s3 with numRenegotiations := 0 } }, s.s3.numRenegotiations, .nothing)
  | .getTotalRenegotiations => some (s, s.s3.totalRenegotiations, .nothing)
  | .getFlags => some (s, s.s3.flags, .nothing)
  | .setTmpDh none => some (s, 0, .nothing)
  | .setTmpDh (some dh) => libResult lib (.setTmpDh dh) s
  | .setTmpDhCb => some (s, 0, .nothing)
  | .setDhAuto larg => some ({ s with cert := { s.cert with dhTmpAuto := larg } }, 1, .nothing)
  | .setTmpEcdh none => some (s, 0, .nothing)
  | .setTmpEcdh (some ecdh) => libResult lib (.setTmpEcdhGroups ecdh) s
  | .setTlsextHostname larg name =>
    let r := setTlsextHostname k lib.allocOk s larg name
    some (r.1, r.2, .nothing)
  | .setTlsextDebugArg arg => some ({ s with ext := { s.ext with debugArg := arg } }, 1, .nothing)
  | .getTlsextStatusReqType => some (s, s.ext.statusType, .nothing)
  | .setTlsextStatusReqType larg =>
    some ({ s with ext := { s.ext with statusType := larg } }, 1, .nothing)
  | .getTlsextStatusReqExts => some (s, 1, .handle s.ext.ocspExts)
  | .setTlsextStatusReqExts exts => some ({ s with ext := { s.ext with ocspExts := exts } }, 1, .nothing)
  | .getTlsextStatusReqIds => some (s, 1, .handle s.ext.ocspIds)
  | .setTlsextStatusReqIds ids => some ({ s with ext := { s.ext with ocspIds := ids } }, 1, .nothing)
  | .getTlsextStatusReqOcspResp =>
    if s.ext.ocspRespLen == 0 || s.ext.ocspRespLen > k.longMax then
      some (s, -1, .buf s.ext.ocspResp)
    else some (s, s.ext.ocspRespLen, .buf s.ext.ocspResp)
  | .setTlsextStatusReqOcspResp larg resp =>
    some ({ s with ext := { s.ext with ocspResp := resp, ocspRespLen := sizeT larg } }, 1, .nothing)
  | .chain larg chain =>
    libResult lib (if larg != 0 then .certSet1Chain chain else .certSet0Chain chain) s
  | .chainCert larg x509 =>
    libResult lib (if larg != 0 then .certAdd1ChainCert x509 else .certAdd0ChainCert x509) s
  | .getChainCerts => some (s, 1, .handle s.cert.keyChain)
  | .selectCurrentCert x509 => libResult lib (.certSelectCurrent x509) s
  | .setCurrentCert larg =>
    if larg == k.certSetServer then
      let r := setCurrentCertServer k s
      some (r.1, r.2, .nothing)
    else libResult lib (.certSetCurrent larg) s
  | .getGroups out =>
    match s.session with
    | none => some (s, 0, .nothing)
    | some _ =>
      let clist := s.ext.peerSupportedgroups
      some (s, clist.length,
        if out then .nids (clist.map (getGroupsEntry nids s.ctx)) else .nothing)
  | .setGroups larg groups => libResult lib (.setGroups groups larg) s
  | .setGroupsList list => libResult lib (.setGroupsList list) s
  | .getSharedGroup larg =>
    let id := lib.sharedGroup s larg
    if larg != -1 then some (s, nids.groupId2nid id, .nothing) else some (s, id.toNat, .nothing)
  | .getNegotiatedGroup =>
    if s.isTls13 && s.s3.didKex then some (s, nids.groupId2nid s.s3.groupId, .nothing)
    else match s.session with
      | none => none
      | some session => some (s, nids.groupId2nid session.kexGroup, .nothing)
  | .setSigalgs larg sigalgs => libResult lib (.setSigalgs sigalgs larg false) s
  | .setSigalgsList list => libResult lib (.setSigalgsList list false) s
  | .setClientSigalgs larg sigalgs => libResult lib (.setSigalgs sigalgs larg true) s
  | .setClientSigalgsList list => libResult lib (.setSigalgsList list true) s
  | .getClientCertTypes out =>
    if s.server || !s.s3.tmp.certReq then some (s, 0, .nothing)
    else some (s, Buf.lenOf s.s3.tmp.ctype, if out then .buf s.s3.tmp.ctype else .nothing)
  | .setClientCertTypes larg types =>
    if !s.server then some (s, 0, .nothing)
    else
      let r := ssl3SetReqCertType lib.allocOk s.cert types (sizeT larg)
      some ({ s with cert := r.1 }, r.2, .nothing)
  | .buildCertChain larg => libResult lib (.buildCertChain larg) s
  | .setVerifyCertStore larg store => libResult lib (.setCertStore store false larg) s
  | .setChainCertStore larg store => libResult lib (.setCertStore store true larg) s
  | .getVerifyCertStore => libResult lib (.getCertStore false) s
  | .getChainCertStore => libResult lib (.getCertStore true) s
  | .getPeerSignatureNid =>
    match s.s3.tmp.peerSigalg with
    | none => some (s, 0, .nothing)
    | some hash => some (s, 1, .hash hash)
  | .getSignatureNid =>
    match s.s3.tmp.sigalg with
    | none => some (s, 0, .nothing)
    | some hash => some (s, 1, .hash hash)
  | .getPeerTmpKey =>
    match s.session, s.s3.peerTmp with
    | some _, some key => some (s, 1, .handle key)
    | _, _ => some (s, 0, .nothing)
  | .getTmpKey =>
    match s.session, s.s3.tmp.pkey with
    | some _, some key => some (s, 1, .handle key)
    | _, _ => some (s, 0, .nothing)
  | .getEcPointFormats =>
    match s.ext.peerEcpointformats with
    | none => some (s, 0, .nothing)
    | some formats => some (s, formats.length, .bytes (some formats))
  | .other _ => some (s, 0, .nothing)

/-- `s'` differs from `s` at most in the extension fields other than the host name, in the
certificate fields other than the requested certificate types, and in the renegotiation count. -/
def CtrlFrame (s s' : Ssl) : Prop :=
  s' = { s with
    ext := { s'.ext with hostname := s.ext.hostname }
    cert := { s'.cert with ctype := s.cert.ctype }
    s3 := { s.s3 with numRenegotiations := s'.s3.numRenegotiations } }

private theorem ctrlFrame_setCurrentCertServer (k : Consts) (s : Ssl) :
    CtrlFrame s (setCurrentCertServer k s).1 := by
  unfold setCurrentCertServer
  split
  · rfl
  · split
    · rfl
    · split
      · rfl
      · split <;> rfl

/-- What one command of `ssl3_ctrl` can do: read through the `NULL` session at
`SSL_CTRL_GET_NEGOTIATED_GROUP` outside a TLSv1.3 key exchange, or return the connection a library
call made, the one the host-name setter or the certificate-type setter made, or one within
`CtrlFrame` of `s`. -/
theorem ssl3Ctrl_cases (k : Consts) (lib : SslLib) (nids : NidMap) (s : Ssl) (cmd : SslCtrl) :
    (cmd = .getNegotiatedGroup ∧ (s.isTls13 && s.s3.didKex) = false ∧ s.session = none ∧
      ssl3Ctrl k lib nids s cmd = none) ∨
    ∃ r, ssl3Ctrl k lib nids s cmd = some r ∧
      ((∃ call, r.1 = (lib.call call s).1) ∨
        (∃ larg name, cmd = .setTlsextHostname larg name ∧
          r.1 = (setTlsextHostname k lib.allocOk s larg name).1) ∨
        (∃ larg types, cmd = .setClientCertTypes larg types ∧
          r.1 = { s with cert := (ssl3SetReqCertType lib.allocOk s.cert types (sizeT larg)).1 }) ∨
        CtrlFrame s r.1) := by
  cases cmd
  case setTlsextHostname larg name => exact .inr ⟨_, rfl, .inr (.inl ⟨larg, name, rfl, rfl⟩)⟩
  case setClientCertTypes larg types =>
    refine .inr ?_
    show ∃ r, (if (!s.server) = true then _ else _) = some r ∧ _
    split
    · exact ⟨_, rfl, .inr (.inr (.inr rfl))⟩
    · exact ⟨_, rfl, .inr (.inr (.inl ⟨larg, types, rfl, rfl⟩))⟩
  case setCurrentCert larg =>
    refine .inr ?_
    show ∃ r, (if larg == k.certSetServer then _ else _) = some r ∧ _
    split
    · exact ⟨_, rfl, .inr (.inr (.inr (ctrlFrame_setCurrentCertServer k s)))⟩
    · exact ⟨_, rfl, .inl ⟨_, rfl⟩⟩
  case getNegotiatedGroup =>
    show _ ∨ ∃ r, (if (s.isTls13 && s.s3.didKex) = true then _ else _) = some r ∧ _
    split
    · exact .inr ⟨_, rfl, .inr (.inr (.inr rfl))⟩
    · split
      · rename_i noKex _ noSession
        refine .inl ⟨rfl, by simpa using noKex, noSession, ?_⟩
        show (if (s.isTls13 && s.s3.didKex) = true then _ else _) = none
        rw [if_neg noKex, noSession]
      · exact .inr ⟨_, rfl, .inr (.inr (.inr rfl))⟩
  case setTmpDh dh => cases dh <;> [exact .inr ⟨_, rfl, .inr (.inr (.inr rfl))⟩; exact .inr ⟨_, rfl, .inl ⟨_, rfl⟩⟩]
  case setTmpEcdh ecdh =>
    cases ecdh <;> [exact .inr ⟨_, rfl, .inr (.inr (.inr rfl))⟩; exact .inr ⟨_, rfl, .inl ⟨_, rfl⟩⟩]
  all_goals refine .inr ?_
  all_goals first
    | exact ⟨_, rfl, .inr (.inr (.inr rfl))⟩
    | exact ⟨_, rfl, .inl ⟨_, rfl⟩⟩
    | (delta ssl3Ctrl; dsimp only; split <;> (try split) <;> exact ⟨_, rfl, .inr (.inr (.inr rfl))⟩)

/-- The commands of `ssl3_callback_ctrl`, each with the function pointer it installs, and a
command code that no `case` of the `switch` names. -/
inductive SslCallbackCtrl where
  | setTmpDhCb (fp : Nat)
  | setTlsextDebugCb (fp : Nat)
  | setNotResumableSessCb (fp : Nat)
  | other (cmd : Int)
deriving Repr

/-- `ssl3_callback_ctrl(s, cmd, fp)`: the return value. The slots that receive `fp`
(`cert->dh_tmp_cb`, `ext.debug_cb`, `not_resumable_session_cb`) are read by no function of the
file, and the model keeps none of them. -/
def ssl3CallbackCtrl : SslCallbackCtrl → Int
  | .setTmpDhCb _ => 1
  | .setTlsextDebugCb _ => 1
  | .setNotResumableSessCb _ => 1
  | .other _ => 0

end S3Lib
