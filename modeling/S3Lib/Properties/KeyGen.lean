import S3Lib.Model.KeyGen

/-! # Releases and aborts of the key generators

Each generator returns the generated key exactly when every step before it and the generation
succeed, releases the context it made once on every path, releases the key of a failed
generation, and never the key it returns (`GenSound`). `ssl_generate_pkey_group` calls `SSLfatal`
on every path that returns `NULL`; `ssl_generate_param_group` only when naming the group fails, so
an unknown group, a missing context, a failed initialisation or a failed generation return `NULL`
with no alert.
-/

namespace S3Lib.KeyGen

open S3Lib

/-- What a generator promises when it made a context exactly if `started`, and `ready` says that
every step before the generation succeeded: the generated key is returned exactly when the steps
and the generation succeed, a context made is released once, the key of a failed generation is
released, and the key returned is not released. -/
structure GenSound (env : KeyGenEnv) (started ready : Bool) (r : Option Nat × List KeyEvent) :
    Prop where
  returns : r.1 = if ready && env.genOk then env.key else none
  ctx_freed : started = true → ∀ c, env.ctx = some c → r.2.count (.ctxFree (some c)) = 1
  failed_freed : ready = true → env.genOk = false → KeyEvent.keyFree env.key ∈ r.2
  kept : ∀ k, r.1 = some k → KeyEvent.keyFree (some k) ∉ r.2

private theorem sslGeneratePkey_sound (env : KeyGenEnv) (pm : Option Nat) :
    GenSound env pm.isSome (pm.isSome && env.ctx.isSome && env.initOk) (sslGeneratePkey env pm) := by
  unfold sslGeneratePkey
  split
  · constructor <;> simp
  · split
    · constructor <;> simp_all
    · split_ifs <;> constructor <;> simp_all

private theorem sslGeneratePkeyGroup_sound (env : KeyGenEnv) (s : Ssl) (id : UInt16) :
    let known := (tls1GroupIdLookup s.ctx id).isSome
    GenSound env known (known && env.ctx.isSome && env.initOk && env.setGroupOk)
      (sslGeneratePkeyGroup env s id) := by
  unfold sslGeneratePkeyGroup
  split
  · constructor <;> simp_all
  · split
    · constructor <;> simp_all
    · split_ifs <;> constructor <;> simp_all

/-- The calls of a generator other than `SSLfatal`. -/
def releases (events : List KeyEvent) : List KeyEvent := events.filter (· != .fatal)

/-- `ssl_generate_param_group` returns what `ssl_generate_pkey_group` returns and releases what it
releases; the two differ only in their `SSLfatal` calls. -/
private theorem sslGenerateParamGroup_releases (env : KeyGenEnv) (s : Ssl) (id : UInt16) :
    (sslGenerateParamGroup env s id).1 = (sslGeneratePkeyGroup env s id).1 ∧
      releases (sslGenerateParamGroup env s id).2 = releases (sslGeneratePkeyGroup env s id).2 := by
  unfold sslGenerateParamGroup sslGeneratePkeyGroup
  split
  · exact ⟨rfl, rfl⟩
  · split
    · exact ⟨rfl, rfl⟩
    · split_ifs <;> exact ⟨rfl, rfl⟩

/-- `GenSound` reads the releases only. -/
private theorem GenSound.of_releases {env : KeyGenEnv} {started ready : Bool}
    {r r' : Option Nat × List KeyEvent} (sound : GenSound env started ready r) (same : r'.1 = r.1)
    (sameReleases : releases r'.2 = releases r.2) : GenSound env started ready r' := by
  have count (e : KeyEvent) (notFatal : e ≠ .fatal) : r'.2.count e = r.2.count e := by
    have := congrArg (List.count e) sameReleases
    simpa [releases, List.count_filter, notFatal] using this
  have mem (e : KeyEvent) (notFatal : e ≠ .fatal) : e ∈ r'.2 ↔ e ∈ r.2 := by
    rw [← List.count_pos_iff, ← List.count_pos_iff, count e notFatal]
  refine ⟨same ▸ sound.returns, fun hs c hc => ?_, fun hr hg => ?_, fun k hk => ?_⟩
  · rw [count _ (by simp)]
    exact sound.ctx_freed hs c hc
  · exact (mem _ (by simp)).mpr (sound.failed_freed hr hg)
  · rw [mem _ (by simp)]
    exact sound.kept k (same ▸ hk)

private theorem sslGenerateParamGroup_sound (env : KeyGenEnv) (s : Ssl) (id : UInt16) :
    let known := (tls1GroupIdLookup s.ctx id).isSome
    GenSound env known (known && env.ctx.isSome && env.initOk && env.setGroupOk)
      (sslGenerateParamGroup env s id) :=
  (sslGeneratePkeyGroup_sound env s id).of_releases (sslGenerateParamGroup_releases env s id).1
    (sslGenerateParamGroup_releases env s id).2

/-- The generators release every context they make once and the key of a failed generation, and
return the generated key exactly when every step before it and the generation succeed. -/
theorem keyGenerators_sound (env : KeyGenEnv) (pm : Option Nat) (s : Ssl) (id : UInt16) :
    let known := (tls1GroupIdLookup s.ctx id).isSome
    GenSound env pm.isSome (pm.isSome && env.ctx.isSome && env.initOk) (sslGeneratePkey env pm) ∧
      GenSound env known (known && env.ctx.isSome && env.initOk && env.setGroupOk)
        (sslGeneratePkeyGroup env s id) ∧
      GenSound env known (known && env.ctx.isSome && env.initOk && env.setGroupOk)
        (sslGenerateParamGroup env s id) :=
  ⟨sslGeneratePkey_sound env pm, sslGeneratePkeyGroup_sound env s id,
    sslGenerateParamGroup_sound env s id⟩

/-- `ssl_generate_pkey_group` calls `SSLfatal` exactly when it returns `NULL`;
`ssl_generate_param_group` exactly when naming the group fails, so its other failures return
`NULL` with no alert. -/
theorem keyGenerators_fatal (env : KeyGenEnv) (s : Ssl) (id : UInt16) :
    (KeyEvent.fatal ∈ (sslGeneratePkeyGroup env s id).2 ↔ (sslGeneratePkeyGroup env s id).1 = none) ∧
      (KeyEvent.fatal ∈ (sslGenerateParamGroup env s id).2 ↔
        (tls1GroupIdLookup s.ctx id).isSome ∧ env.ctx.isSome ∧ env.initOk ∧ env.setGroupOk = false) := by
  have made : env.genOk = true → env.key ≠ none := fun ok =>
    Option.ne_none_iff_isSome.mpr (env.key_of_genOk ok)
  unfold sslGeneratePkeyGroup sslGenerateParamGroup
  split
  · simp_all
  · split
    · simp_all
    · split_ifs <;> simp_all

/-- Parameters for a group the context does not know: `NULL`, and no alert. -/
example : sslGenerateParamGroup ⟨some 1, true, true, true, some 2, fun _ => rfl⟩
    { ctx := SslCtx.zeroKeys } 23 = (none, [.ctxFree none]) := rfl

end S3Lib.KeyGen
