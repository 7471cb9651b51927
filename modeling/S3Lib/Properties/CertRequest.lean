import S3Lib.Model.CertReq

/-! # The certificate types of a CertificateRequest

`ssl3_get_req_cert_type` writes the types one `WPACKET_put_bytes_u8` at a time and returns `0` at
the first write that fails. Taken together the writes put one list, `requestedCertTypes`: all of
it with `1`, or the prefix that fits with `0` (`putList`). A list stored by
`SSL_CTRL_SET_CLIENT_CERT_TYPES` replaces it, copied whole or not at all; a set that stores
nothing (a `NULL` or empty list, one longer than 255 bytes, a failed copy) brings it back.
-/

namespace S3Lib.CertRequest

open S3Lib

/-- Writing `bytes` one byte at a time: all of them and `1`, or the prefix that fits and `0`. -/
def putList (pkt : WPacket) (bytes : List UInt8) : Int × WPacket :=
  (if bytes.length ≤ pkt.room then 1 else 0,
    ⟨pkt.written ++ bytes.take pkt.room, pkt.room - bytes.length⟩)

/-- The certificate types a request lists when every write fits: the GOST types of a GOST key
exchange; then the BIGN type alone for a BIGN key exchange from TLS 1.0 on, or else the ephemeral
DH types of an SSLv3 DHE exchange and the RSA, DSS and ECDSA types that the mask leaves. -/
def requestedCertTypes (k : Consts) (t : CertTypeConsts) (version : Int) (algK algA : Nat) :
    List UInt8 :=
  let tls1 := decide (t.tls1Version ≤ version)
  ((if t.gost && tls1 && algK &&& t.kGOST != 0 then
      [t.tlsCtGost01Sign, t.tlsCtGost12IanaSign, t.tlsCtGost12Iana512Sign, t.tlsCtGost12LegacySign,
        t.tlsCtGost12Legacy512Sign]
    else []) ++
    if t.gost && decide (t.tls12Version ≤ version) && algK &&& t.kGOST18 != 0 then
      [t.tlsCtGost12IanaSign, t.tlsCtGost12Iana512Sign]
    else []) ++
  if tls1 && (algK &&& t.kBDHE != 0 || algK &&& t.kBDHTPSK != 0) then [t.tlsCtBignSign]
  else
    (if version == k.ssl3Version && algK &&& t.kDHE != 0 then
      t.ssl3CtRsaEphemeralDh :: if algA &&& t.aDSS == 0 then [t.ssl3CtDssEphemeralDh] else []
    else []) ++
    ((if algA &&& t.aRSA == 0 then [t.ssl3CtRsaSign] else []) ++
      ((if algA &&& t.aDSS == 0 then [t.ssl3CtDssSign] else []) ++
        if tls1 && algA &&& t.aECDSA == 0 then [t.tlsCtEcdsaSign] else []))

/-- The request of a connection with no stored list. -/
def defaultRequest (k : Consts) (t : CertTypeConsts) (sigMask : Nat) (s : Ssl) (pkt : WPacket) :
    Option (Int × WPacket) :=
  s.s3.tmp.newCipher.map fun c => putList pkt (requestedCertTypes k t s.version c.algorithmMkey sigMask)

/-- Single writes, each failing on a full packet, put a list byte by byte. -/
private theorem putAllOrFail_eq (pkt : WPacket) (bytes : List UInt8) :
    putAllOrFail pkt bytes =
      if bytes.length ≤ pkt.room then .ok ⟨pkt.written ++ bytes, pkt.room - bytes.length⟩
      else .error ⟨pkt.written ++ bytes.take pkt.room, 0⟩ := by
  induction bytes generalizing pkt with
  | nil => simp only [List.length_nil, Nat.zero_le, if_true, List.append_nil, Nat.sub_zero]; rfl
  | cons b bytes ih =>
    obtain ⟨written, room⟩ := pkt
    cases room with
    | zero => simp [putAllOrFail, List.foldlM, putOrFail, WPacket.putBytesU8]; rfl
    | succ room =>
      show putAllOrFail ⟨written ++ [b], room⟩ bytes = _
      rw [ih]
      simp

private theorem putOrFail_eq (pkt : WPacket) (b : UInt8) : putOrFail pkt b = putAllOrFail pkt [b] := by
  simp [putAllOrFail]

private theorem putAllOrFail_bind_bind {α : Type} (pkt : WPacket) (xs ys : List UInt8)
    (f : WPacket → Except WPacket α) :
    (putAllOrFail pkt xs >>= fun p => putAllOrFail p ys >>= f) = putAllOrFail pkt (xs ++ ys) >>= f := by
  simp [putAllOrFail, List.foldlM_append]

/-- A guarded group of writes is the group's list or nothing. -/
private theorem ite_putAllOrFail_bind {α : Type} (c : Bool) (pkt : WPacket) (xs : List UInt8)
    (f : WPacket → Except WPacket α) :
    (if c = true then putAllOrFail pkt xs >>= f else f pkt) =
      putAllOrFail pkt (if c then xs else []) >>= f := by
  cases c <;> rfl

/-- A guarded group of writes at the head of the later writes. -/
private theorem ite_putAllOrFail_cons {α : Type} (c : Bool) (pkt : WPacket) (b : UInt8) (xs ys : List UInt8)
    (f : WPacket → Except WPacket α) :
    (if c = true then putAllOrFail pkt (b :: (xs ++ ys)) >>= f else putAllOrFail pkt ys >>= f) =
      putAllOrFail pkt ((if c then b :: xs else []) ++ ys) >>= f := by
  cases c <;> rfl

private theorem writesResult_bind (pkt : WPacket) (bytes : List UInt8)
    (f : WPacket → Except WPacket (Int × WPacket)) :
    writesResult (putAllOrFail pkt bytes >>= f) =
      if bytes.length ≤ pkt.room then writesResult (f ⟨pkt.written ++ bytes, pkt.room - bytes.length⟩)
      else (0, ⟨pkt.written ++ bytes.take pkt.room, 0⟩) := by
  rw [putAllOrFail_eq]
  split <;> rfl

/-- Putting a list is putting its first part, then the rest if the first part fit. -/
private theorem putList_append (pkt : WPacket) (xs ys : List UInt8) :
    putList pkt (xs ++ ys) =
      if xs.length ≤ pkt.room then putList ⟨pkt.written ++ xs, pkt.room - xs.length⟩ ys
      else (0, ⟨pkt.written ++ xs.take pkt.room, 0⟩) := by
  unfold putList
  rw [List.take_append_eq_append_take, List.length_append, ← Nat.sub_sub]
  by_cases fits : xs.length ≤ pkt.room
  · rw [if_pos fits, List.take_of_length_le fits, List.append_assoc]
    simp only [show xs.length + ys.length ≤ pkt.room ↔ ys.length ≤ pkt.room - xs.length by omega]
  · rw [if_neg fits, if_neg (by omega), Nat.sub_eq_zero_of_le (by omega : pkt.room ≤ xs.length)]
    simp

/-- A packet written with `1`, then put byte by byte. -/
private theorem writesResult_putAllOrFail_pure (pkt : WPacket) (bytes : List UInt8) :
    writesResult (putAllOrFail pkt bytes >>= fun p => pure (1, p)) = putList pkt bytes := by
  rw [writesResult_bind]
  unfold putList
  split_ifs with fits
  · simp only [List.take_of_length_le fits]
    rfl
  · simp
    omega

/-- `return WPACKET_put_bytes_u8(pkt, b);` puts `[b]`. -/
private theorem retOf_putBytesU8 (pkt : WPacket) (b : UInt8) :
    pkt.retOf (pkt.putBytesU8 b) = putList pkt [b] := by
  obtain ⟨written, room⟩ := pkt
  cases room <;> simp [WPacket.retOf, WPacket.putBytesU8, putList]

/-- The shape of the writes: a first group, then one type on its own or a second group. -/
private theorem writesResult_groups (pkt : WPacket) (first rest : List UInt8) (alone alone' : Bool)
    (b : UInt8) :
    writesResult (putAllOrFail pkt first >>= fun p =>
        if alone = true then pure (p.retOf (p.putBytesU8 b))
        else if alone' = true then pure (p.retOf (p.putBytesU8 b))
        else putAllOrFail p rest >>= fun p => pure (1, p)) =
      putList pkt (first ++ if alone || alone' then [b] else rest) := by
  rw [writesResult_bind, putList_append]
  split
  · cases alone <;> cases alone' <;>
      simp only [Bool.or_true, Bool.or_false, Bool.false_eq_true, if_true, if_false,
        writesResult_putAllOrFail_pure, retOf_putBytesU8] <;> rfl
  · rfl

/-- The writes of `ssl3_get_req_cert_type` put `requestedCertTypes` byte by byte. -/
private theorem writesResult_reqCertTypeWrites (k : Consts) (t : CertTypeConsts) (version : Int)
    (algK algA : Nat) (pkt : WPacket) :
    writesResult (reqCertTypeWrites k t version algK algA pkt) =
      putList pkt (requestedCertTypes k t version algK algA) := by
  simp only [reqCertTypeWrites, putOrFail_eq, pure_bind, ite_putAllOrFail_bind]
  simp only [putAllOrFail_bind_bind, List.singleton_append, ite_putAllOrFail_cons]
  rw [writesResult_groups, requestedCertTypes, Bool.and_or_distrib_left]

/-- A TLS 1.2 ECDHE request with nothing masked into a packet with room for two types. -/
example : putList ⟨[], 2⟩ (requestedCertTypes Consts.release CertTypeConsts.sample 0x303 0x4 0) =
    (0, ⟨[1, 2], 0⟩) := by decide

/-- What the request of a stored list writes: the whole list and `1`, or nothing and `0`. -/
def storedRequest (pkt : WPacket) (types : List UInt8) : Int × WPacket :=
  if types.length ≤ pkt.room then (1, ⟨pkt.written ++ types, pkt.room - types.length⟩) else (0, pkt)

private theorem ssl3GetReqCertType_of_stored (k : Consts) (t : CertTypeConsts) (sigMask : Nat) {s : Ssl}
    {types : List UInt8} (stored : s.cert.ctype = some types) (pkt : WPacket) :
    ssl3GetReqCertType k t sigMask s pkt = some (storedRequest pkt types) := by
  simp only [ssl3GetReqCertType, stored, storedRequest, WPacket.memcpy]
  split <;> rfl

private theorem ssl3GetReqCertType_of_none (k : Consts) (t : CertTypeConsts) (sigMask : Nat) {s : Ssl}
    (none : s.cert.ctype = none) (pkt : WPacket) :
    ssl3GetReqCertType k t sigMask s pkt = defaultRequest k t sigMask s pkt := by
  simp only [ssl3GetReqCertType, none, defaultRequest, writesResult_reqCertTypeWrites]

/-- `ssl3_get_req_cert_type` copies a stored list whole or not at all, and with no list stored
puts `requestedCertTypes` byte by byte. -/
theorem ssl3GetReqCertType_eq (k : Consts) (t : CertTypeConsts) (sigMask : Nat) (s : Ssl)
    (pkt : WPacket) :
    ssl3GetReqCertType k t sigMask s pkt =
      match s.cert.ctype with
      | some types => some (storedRequest pkt types)
      | none => defaultRequest k t sigMask s pkt := by
  cases stored : s.cert.ctype with
  | some types => exact ssl3GetReqCertType_of_stored k t sigMask stored pkt
  | none => exact ssl3GetReqCertType_of_none k t sigMask stored pkt

/-- `ssl3_set_req_cert_type` on a list stores its first `len` bytes and returns `1` when
`0 < len ≤ 255` and the copy succeeds; otherwise it stores nothing, returning `1` only for
`len = 0`. -/
private theorem ssl3SetReqCertType_some (allocOk : Bool) (c : Cert) (types : List UInt8) (len : Nat) :
    ssl3SetReqCertType allocOk c (some types) len =
      if 0 < len ∧ len ≤ 255 ∧ allocOk = true then ({ c with ctype := some (readBytes types 0 len) }, 1)
      else ({ c with ctype := none }, if len = 0 then 1 else 0) := by
  unfold ssl3SetReqCertType
  by_cases empty : len = 0
  · simp [empty]
  · by_cases long : 255 < len
    · simp [empty, long, show ¬len ≤ 255 by omega]
    · cases allocOk <;> simp [empty, long, Nat.pos_of_ne_zero empty, show len ≤ 255 by omega]

/-- After `SSL_CTRL_SET_CLIENT_CERT_TYPES` on a server, the request lists the types just set when
the call returned `1` for a non-empty list; after any other set it lists the default types. -/
theorem ssl3GetReqCertType_after_set (k : Consts) (lib : SslLib) (nids : NidMap) (t : CertTypeConsts)
    (sigMask : Nat) (s : Ssl) (larg : Int) (p : Option (List UInt8)) (pkt : WPacket)
    (server : s.server = true) :
    ∃ s' ret, ssl3Ctrl k lib nids s (.setClientCertTypes larg p) = some (s', ret, .nothing) ∧
      ssl3GetReqCertType k t sigMask s' pkt =
        match p with
        | some types =>
          if 0 < sizeT larg ∧ ret = 1 then some (storedRequest pkt (readBytes types 0 (sizeT larg)))
          else defaultRequest k t sigMask s pkt
        | none => defaultRequest k t sigMask s pkt := by
  have set : ssl3Ctrl k lib nids s (.setClientCertTypes larg p) =
      some ({ s with cert := (ssl3SetReqCertType lib.allocOk s.cert p (sizeT larg)).1 },
        (ssl3SetReqCertType lib.allocOk s.cert p (sizeT larg)).2, .nothing) := by
    show (if !s.server then _ else _) = _
    rw [if_neg (by simp [server])]
  refine ⟨_, _, set, ?_⟩
  cases p with
  | none => exact ssl3GetReqCertType_of_none k t sigMask rfl pkt
  | some types =>
    simp only [ssl3SetReqCertType_some]
    split_ifs <;> first
      | exact ssl3GetReqCertType_of_stored k t sigMask rfl pkt
      | exact ssl3GetReqCertType_of_none k t sigMask rfl pkt
      | simp_all

theorem ssl3GetReqCertType_after_set_types :
    let s : Ssl := { ctx := SslCtx.zeroKeys, server := true }
    let lib : SslLib := ⟨true, fun _ s => (s, 0), fun _ _ => 0⟩
    let nids : NidMap := ⟨fun _ => 0, fun _ => 0, 0x1000000, fun _ => false⟩
    s.server = true ∧
      ∃ s' ret, ssl3Ctrl Consts.release lib nids s (.setClientCertTypes 2 (some [1, 64])) =
          some (s', ret, .nothing) ∧
        ssl3GetReqCertType Consts.release CertTypeConsts.sample 0 s' ⟨[], 8⟩ =
          if 0 < sizeT 2 ∧ ret = 1 then some (storedRequest ⟨[], 8⟩ (readBytes [1, 64] 0 (sizeT 2)))
          else defaultRequest Consts.release CertTypeConsts.sample 0 s ⟨[], 8⟩ :=
  ⟨rfl, ssl3GetReqCertType_after_set _ _ _ _ _ _ _ _ _ rfl⟩

end S3Lib.CertRequest
