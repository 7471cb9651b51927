import S3Lib.Model.State

/-! # `ssl3_choose_cipher`

The server's choice of a cipher suite from the client's list `clnt` and its own list `srvr`.
The three loops that build `prio_chacha`, and the main loop over the priority list with its
`continue` and `break` paths, are structural recursions over the lists they walk. What the
function learns from outside `s3_lib.c` (Suite-B, the allocation, the capability masks, the
security callback, the temporary EC key check, the digest of a suite) is a `ChooseEnv`.
-/

namespace S3Lib

/-- What `ssl3_choose_cipher` learns from functions outside `s3_lib.c`: `tls1_suiteb(s)`; whether
`sk_SSL_CIPHER_new_reserve(NULL, num)` returns a list; `ssl_has_cert(s, j)` for each
`j < SSL_PKEY_NUM`; the `s3.tmp.mask_k` and `mask_a` that `tls1_set_cert_validity` and
`ssl_set_masks` leave; `ssl_security(s, SSL_SECOP_CIPHER_SHARED, c->strength_bits, 0, c)`;
`tls1_check_ec_tmp_key(s, c->id)`; whether `ssl_md(s->ctx, algorithm2)` is a digest with
`EVP_MD_is_a(md, "SHA2-256")`; and `dtls_ver_ordinal`, by which `DTLS_VERSION_LT` and
`DTLS_VERSION_GT` compare. -/
structure ChooseEnv where
  suiteb : Bool
  reserveOk : Bool
  hasCert : List Bool
  maskK : Nat
  maskA : Nat
  security : Suite → Bool
  checkEcTmpKey : Nat → Bool
  mdIsSha256 : Nat → Bool
  dtlsVerOrdinal : Int → Int

section

variable (k : Consts) (env : ChooseEnv) (s : Ssl)

/-- `c->algorithm_enc == SSL_CHACHA20POLY1305`. -/
def isChacha (c : Suite) : Bool := c.algorithmEnc == k.chacha20Poly1305

/-- The first loop over `srvr`: the suites before the first ChaCha20-Poly1305 suite, that suite
and the suites after it, or `none` when `found` stays `0`. -/
def findChacha : List Suite → Option (List Suite × Suite × List Suite)
  | [] => none
  | c :: rest =>
    if isChacha k c then some ([], c, rest)
    else (findChacha rest).map fun (pre, found, post) => (c :: pre, found, post)

/-- `sk_SSL_CIPHER_push(prio_chacha, c)` for each `c` of a loop that `keep` admits. -/
def pushWhere (keep : Suite → Bool) (stack : List Suite) : List Suite → List Suite
  | [] => stack
  | c :: rest => pushWhere keep (if keep c then stack ++ [c] else stack) rest

/-- `prio_chacha`: the suite `found`, then the ChaCha20-Poly1305 suites after it, then every
other suite of `srvr`. -/
def prioChacha (srvr : List Suite) (found : Suite) (after : List Suite) : List Suite :=
  pushWhere (fun c => !isChacha k c) (pushWhere (isChacha k) [found] after) srvr

/-- The priority list under `SSL_OP_CIPHER_SERVER_PREFERENCE`. -/
def serverPrio (clnt srvr : List Suite) : List Suite :=
  if s.options.prioritizeChacha then
    match clnt with
    | c :: _ =>
      if isChacha k c then
        match findChacha k srvr with
        | some (_, found, after) => if env.reserveOk then prioChacha k srvr found after else srvr
        | none => srvr
      else srvr
    | [] => srvr
  else srvr

/-- `(prio, allow)`. -/
def chooseLists (clnt srvr : List Suite) : List Suite × List Suite :=
  if env.suiteb then (srvr, clnt)
  else if s.options.cipherServerPreference then (serverPrio k env s clnt srvr, clnt)
  else (clnt, srvr)

/-- `DTLS_VERSION_LT(v1, v2)`. -/
def dtlsVersionLt (v1 v2 : Int) : Bool := env.dtlsVerOrdinal v1 > env.dtlsVerOrdinal v2

/-- `DTLS_VERSION_GT(v1, v2)`. -/
def dtlsVersionGt (v1 v2 : Int) : Bool := env.dtlsVerOrdinal v1 < env.dtlsVerOrdinal v2

/-- The two version tests at the head of the loop; `false` is `continue`. -/
def versionOk (c : Suite) : Bool :=
  !(!s.isDtls && (s.version < c.minTls || s.version > c.maxTls)) &&
    !(s.isDtls && (dtlsVersionLt env s.version c.minDtls || dtlsVersionGt env s.version c.maxDtls))

/-- `mask_k`, widened by `SSL_kSRP` when SRP is configured. -/
def chooseMaskK : Nat := if s.srpMask &&& k.kSRP != 0 then env.maskK ||| k.kSRP else env.maskK

/-- `mask_a`, widened by `SSL_aSRP` when SRP is configured. -/
def chooseMaskA : Nat := if s.srpMask &&& k.kSRP != 0 then env.maskA ||| k.aSRP else env.maskA

/-- The key-exchange and authentication tests of the loop below TLS 1.3; `false` is
`continue`. -/
def algorithmsOk (c : Suite) : Bool :=
  if c.algorithmMkey &&& k.psk != 0 && !s.pskServerCallback then false
  else
    let ok := c.algorithmMkey &&& chooseMaskK k env s != 0 &&
      c.algorithmAuth &&& chooseMaskA k env s != 0
    if c.algorithmMkey &&& k.kECDHE != 0 then ok && env.checkEcTmpKey c.id else ok

/-- `alg_k` and `alg_a` when the shared suite `c` is reached: they are only assigned below
TLS 1.3 and keep their initial `0` in TLS 1.3. -/
def algK (c : Suite) : Nat := if s.isTls13 then 0 else c.algorithmMkey

/-- See `algK`. -/
def algA (c : Suite) : Nat := if s.isTls13 then 0 else c.algorithmAuth

/-- The "probably Safari" test on a shared suite. -/
def safariMatch (c : Suite) : Bool :=
  algK s c &&& k.kECDHE != 0 && algA s c &&& k.aECDSA != 0 && s.s3.isProbablySafari

/-- `prefer_sha256`: TLS 1.3, a PSK server callback and no certificate of any type. -/
def preferSha256 : Bool := s.isTls13 && s.pskServerCallback && env.hasCert.all (· == false)

/-- The main loop over the priority list, with `ret` the suite remembered so far. -/
def chooseLoop (prefer : Bool) (allow : List Suite) : Option Suite → List Suite → Option Suite
  | ret, [] => ret
  | ret, c :: rest =>
    if !versionOk env s c then chooseLoop prefer allow ret rest
    else if !s.isTls13 && !algorithmsOk k env s c then chooseLoop prefer allow ret rest
    else match allow.find? (· == c) with
      | none => chooseLoop prefer allow ret rest
      | some a =>
        if !env.security c then chooseLoop prefer allow ret rest
        else if safariMatch k s c then chooseLoop prefer allow (ret <|> some a) rest
        else if prefer then
          if env.mdIsSha256 a.algorithm2 then some a
          else chooseLoop prefer allow (ret <|> some a) rest
        else some a

/-- `ssl3_choose_cipher(s, clnt, srvr)`. -/
def ssl3ChooseCipher (clnt srvr : List Suite) : Option Suite :=
  let lists := chooseLists k env s clnt srvr
  chooseLoop k env s (preferSha256 env s) lists.2 none lists.1

end

end S3Lib
