import S3Lib.Model.Secrets

/-! # Key agreement and key encapsulation

`ssl_gensecret`, `ssl_derive`, `ssl_decapsulate` and `ssl_encapsulate`. Each of the last three
makes an `EVP_PKEY_CTX`, asks the mechanism for the length of the secret, allocates a buffer of
that length and has the mechanism fill it; then it either hands the secret to `ssl_gensecret`
(`gensecret` set) or stores it as the premaster `s->s3.tmp.pms`, and after its `err:` label it
clear-frees whatever secret buffer it still holds. `ssl_encapsulate` also makes a ciphertext,
which passes to the caller through `*ctp` and `*ctlenp` only when the call returns a positive
value.

What the `EVP_PKEY` functions, `OPENSSL_malloc` and the TLS 1.3 key schedule do in one call is an
argument (`KexEnv`, `Tls13Env`); the buffer releases and the inputs of the key schedules are
`Event`s. `EVP_PKEY_CTX_free` and `SSLfatal` are not logged.
-/

namespace S3Lib

/-- What `tls13_generate_secret` and `tls13_generate_handshake_secret` (`tls13_enc.c`) return in
one `ssl_gensecret` call: whether the first succeeds on the early secret, and whether the second
succeeds on a given premaster. -/
structure Tls13Env where
  earlyOk : Bool
  handshakeOk : List UInt8 → Bool

/-- `ssl_gensecret(s, pms, pmslen)` on the buffer `pms` of `pmslen` bytes; `none` where
`ssl_generate_master_secret` reads a `NULL` `new_cipher`. -/
def sslGensecret (k : Consts) (kdf : KdfEnv) (t13 : Tls13Env) (s : Ssl) (pms : Buf) :
    Option (Ssl × Int × List Event) :=
  if s.isTls13 then
    let rv := if !s.hit then t13.earlyOk else true
    if rv then
      some (s, if t13.handshakeOk pms.bytes then 1 else 0, [.generateHandshakeSecret pms.bytes])
    else some (s, 0, [])
  else sslGenerateMasterSecret k kdf s (some pms) false

/-- What the `EVP_PKEY` functions and `OPENSSL_malloc` do in one `ssl_derive`, `ssl_decapsulate`
or `ssl_encapsulate` call. The mechanism reads the keys and the ciphertext; what it makes of them
is `secret` and `ct`.

`initOk`: `EVP_PKEY_CTX_new_from_pkey` returns a context and `EVP_PKEY_derive_init`,
`EVP_PKEY_decapsulate_init` or `EVP_PKEY_encapsulate_init` on it returns a positive value (on a
`NULL` context the initialisation fails). `setPeerOk`: `EVP_PKEY_derive_set_peer` returns a
positive value. `sizeOk`: the call with `NULL` output buffers returns a positive value, reporting
the lengths `pmslen` and `ctlen` (the latter in `ssl_encapsulate`). `pmsAlloc` and `ctAlloc`:
`OPENSSL_malloc(pmslen)` and `OPENSSL_malloc(ctlen)`, an address or `NULL`. `opOk`: the call that
fills the buffers returns a positive value, leaving `secret` in the secret buffer and `ct` in the
ciphertext buffer. With `EVP_PKEY_CTX_set_dh_pad`, `secret` is the padded TLS 1.3 Diffie-Hellman
secret. -/
structure KexEnv where
  initOk : Bool
  setPeerOk : Bool
  sizeOk : Bool
  pmslen : Nat
  ctlen : Nat
  pmsAlloc : Option Nat
  ctAlloc : Option Nat
  opOk : Bool
  secret : List UInt8
  ct : List UInt8

/-- `s->s3.tmp.pms = pms; s->s3.tmp.pmslen = pmslen;`. -/
def storePms (s : Ssl) (pms : Buf) : Ssl :=
  { s with s3 := { s.s3 with tmp := { s.s3.tmp with pms := some pms } } }

/-- The end of the three functions once `pms` holds the secret: `ssl_gensecret`, or the store as
the premaster with `pms = NULL; rv = 1;`. Returns the connection, `rv`, the secret buffer still
held for the `err:` label and the events. -/
def secretTail (k : Consts) (kdf : KdfEnv) (t13 : Tls13Env) (s : Ssl) (gensecret : Bool)
    (pms : Buf) : Option (Ssl × Int × Option Buf × List Event) :=
  if gensecret then (sslGensecret k kdf t13 s pms).map fun r => (r.1, r.2.1, some pms, r.2.2)
  else some (storePms s pms, 1, none, [])

/-- The part that `ssl_derive` and `ssl_decapsulate` share once the length query succeeded:
allocate, fill, `secretTail`, and `OPENSSL_clear_free(pms, pmslen)` after `err:`. -/
def fillSecret (k : Consts) (kdf : KdfEnv) (t13 : Tls13Env) (env : KexEnv) (s : Ssl)
    (gensecret : Bool) : Option (Ssl × Int × List Event) :=
  match env.pmsAlloc with
  | none => some (s, 0, [])
  | some addr =>
    let pms : Buf := ⟨addr, env.secret⟩
    if !env.opOk then some (s, 0, opensslClearFree (some pms) pms.bytes.length)
    else (secretTail k kdf t13 s gensecret pms).map fun r =>
      (r.1, r.2.1, r.2.2.2 ++ opensslClearFree r.2.2.1 pms.bytes.length)

/-- `ssl_derive(s, privkey, pubkey, gensecret)`. -/
def sslDerive (k : Consts) (kdf : KdfEnv) (t13 : Tls13Env) (env : KexEnv) (s : Ssl)
    (privkey pubkey : Option Nat) (gensecret : Bool) : Option (Ssl × Int × List Event) :=
  match privkey, pubkey with
  | some _, some _ =>
    if !env.initOk || !env.setPeerOk || !env.sizeOk then some (s, 0, [])
    else fillSecret k kdf t13 env s gensecret
  | _, _ => some (s, 0, [])

/-- `ssl_decapsulate(s, privkey, ct, ctlen, gensecret)`; the ciphertext is read only by
`EVP_PKEY_decapsulate`. -/
def sslDecapsulate (k : Consts) (kdf : KdfEnv) (t13 : Tls13Env) (env : KexEnv) (s : Ssl)
    (privkey : Option Nat) (gensecret : Bool) : Option (Ssl × Int × List Event) :=
  match privkey with
  | some _ =>
    if !env.initOk || !env.sizeOk then some (s, 0, [])
    else fillSecret k kdf t13 env s gensecret
  | none => some (s, 0, [])

/-- `ssl_encapsulate(s, pubkey, ctp, ctlenp, gensecret)`: the connection, the return value, the
ciphertext stored through `ctp` and `ctlenp` (`none` where they are left alone) and the events.
A buffer allocated but not written is `⟨addr, []⟩`. -/
def sslEncapsulate (k : Consts) (kdf : KdfEnv) (t13 : Tls13Env) (env : KexEnv) (s : Ssl)
    (pubkey : Option Nat) (gensecret : Bool) : Option (Ssl × Int × Option Buf × List Event) :=
  match pubkey with
  | none => some (s, 0, none, [])
  | some _ =>
    if !env.initOk || !env.sizeOk || env.pmslen == 0 || env.ctlen == 0 then some (s, 0, none, [])
    else match env.pmsAlloc, env.ctAlloc with
      | some pmsAddr, some ctAddr =>
        let pms : Buf := ⟨pmsAddr, env.secret⟩
        let ct : Buf := ⟨ctAddr, env.ct⟩
        if !env.opOk then
          some (s, 0, none, opensslClearFree (some pms) pms.bytes.length ++ opensslFree (some ct))
        else (secretTail k kdf t13 s gensecret pms).map fun r =>
          let out := if r.2.1 > 0 then some ct else none
          (r.1, r.2.1, out, r.2.2.2 ++ opensslClearFree r.2.2.1 pms.bytes.length ++
            opensslFree (if r.2.1 > 0 then none else some ct))
      | pmsAddr, ctAddr =>
        some (s, 0, none, opensslClearFree (pmsAddr.map (⟨·, []⟩)) env.pmslen ++
          opensslFree (ctAddr.map (⟨·, []⟩)))

end S3Lib
