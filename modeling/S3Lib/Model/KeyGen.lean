import S3Lib.Model.Ctrl

/-! # `ssl_generate_pkey`, `ssl_generate_pkey_group` and `ssl_generate_param_group`

The three generators build an `EVP_PKEY_CTX`, initialise it, name the group (the two group
variants), and generate; the outcome of each `EVP_PKEY` call is a field of `KeyGenEnv`. What they
release and where they call `SSLfatal` is a list of `KeyEvent`s, in the order of the calls.
-/

namespace S3Lib

/-- The calls of the generators that release a context or a key, or abort the handshake:
`EVP_PKEY_CTX_free(pctx)` and `EVP_PKEY_free(pkey)`, each with `NULL` or an object, and
`SSLfatal(s, SSL_AD_INTERNAL_ERROR, ...)`. -/
inductive KeyEvent where
  | ctxFree (pctx : Option Nat)
  | keyFree (pkey : Option Nat)
  | fatal
deriving DecidableEq, Repr

/-- What the `EVP_PKEY` functions outside `s3_lib.c` do in one generation: the context that
`EVP_PKEY_CTX_new_from_pkey` or `EVP_PKEY_CTX_new_from_name` returns, or `NULL`; whether
`EVP_PKEY_keygen_init` or `EVP_PKEY_paramgen_init`, `EVP_PKEY_CTX_set_group_name`, and
`EVP_PKEY_keygen` or `EVP_PKEY_paramgen` return a positive value; and what the generation leaves in
`*ppkey`, also when it fails. A generation that succeeds leaves a key. -/
structure KeyGenEnv where
  ctx : Option Nat
  initOk : Bool
  setGroupOk : Bool
  genOk : Bool
  key : Option Nat
  key_of_genOk : genOk = true → key.isSome

/-- `ssl_generate_pkey(s, pm)`: the key it returns and its calls. -/
def sslGeneratePkey (env : KeyGenEnv) (pm : Option Nat) : Option Nat × List KeyEvent :=
  match pm with
  | none => (none, [])
  | some _ =>
    match env.ctx with
    | none => (none, [.ctxFree none])
    | some pctx =>
      if !env.initOk then (none, [.ctxFree (some pctx)])
      else if !env.genOk then (none, [.keyFree env.key, .ctxFree (some pctx)])
      else (env.key, [.ctxFree (some pctx)])

/-- `ssl_generate_pkey_group(s, id)`. -/
def sslGeneratePkeyGroup (env : KeyGenEnv) (s : Ssl) (id : UInt16) : Option Nat × List KeyEvent :=
  match tls1GroupIdLookup s.ctx id with
  | none => (none, [.fatal, .ctxFree none])
  | some _ =>
    match env.ctx with
    | none => (none, [.fatal, .ctxFree none])
    | some pctx =>
      if !env.initOk then (none, [.fatal, .ctxFree (some pctx)])
      else if !env.setGroupOk then (none, [.fatal, .ctxFree (some pctx)])
      else if !env.genOk then (none, [.fatal, .keyFree env.key, .ctxFree (some pctx)])
      else (env.key, [.ctxFree (some pctx)])

/-- `ssl_generate_param_group(s, id)`: it calls `SSLfatal` only when naming the group fails. -/
def sslGenerateParamGroup (env : KeyGenEnv) (s : Ssl) (id : UInt16) : Option Nat × List KeyEvent :=
  match tls1GroupIdLookup s.ctx id with
  | none => (none, [.ctxFree none])
  | some _ =>
    match env.ctx with
    | none => (none, [.ctxFree none])
    | some pctx =>
      if !env.initOk then (none, [.ctxFree (some pctx)])
      else if !env.setGroupOk then (none, [.fatal, .ctxFree (some pctx)])
      else if !env.genOk then (none, [.keyFree env.key, .ctxFree (some pctx)])
      else (env.key, [.ctxFree (some pctx)])

end S3Lib
