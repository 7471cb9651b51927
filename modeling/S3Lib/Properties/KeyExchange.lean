import S3Lib.Model.KeyExchange
import S3Lib.Properties.MasterSecret

/-! # Who owns the new premaster

With `gensecret = 0`, `ssl_derive`, `ssl_decapsulate` and `ssl_encapsulate` return `1` exactly when
every step is reached and succeeds, and the connection then holds as its premaster the secret the
mechanism wrote; on every other path the connection is left as it was (`StoresSecret`). With
`gensecret = 1` the new secret goes to `ssl_gensecret` and is never stored: the premaster is left
as it was or, on a client that takes `ssl_generate_master_secret`, cleared. `ssl_encapsulate`
passes the ciphertext to its caller exactly when it returns a positive value.

Whatever the path, the secret buffer a call allocated is on return the stored premaster or has
been clear-freed, and no buffer but the ciphertext is released without being zeroed
(`ErasesSecret`, `ErasesSecretAndCt`).
-/

namespace S3Lib.KeyExchange

open S3Lib

/-! ### What `ssl_gensecret` does to the premaster and to the buffers -/

private theorem masterSecretErr_pms_eq (s : Ssl) (pms : Option Buf) (pmslen : Nat) (freePms : Bool)
    (ret : Int) (events : List Event) :
    (masterSecretErr s pms pmslen freePms ret events).1.s3.tmp.pms =
      if s.server then s.s3.tmp.pms else none := by
  unfold masterSecretErr
  split_ifs <;> rfl

private theorem free_not_mem_masterSecretErr {b : Buf} {events : List Event} (clean : Event.free b ∉ events)
    (s : Ssl) (pms : Option Buf) (pmslen : Nat) (freePms : Bool) (ret : Int) :
    Event.free b ∉ (masterSecretErr s pms pmslen freePms ret events).2.2 := by
  unfold masterSecretErr
  split <;> [simpa; split_ifs <;> simpa]

/-- Every result of `ssl_generate_master_secret` comes out of its `err:` label, from a connection
that differs from `s` at most in the stored PSK and an event log that frees nothing without
zeroing it. -/
private theorem sslGenerateMasterSecret_inv (k : Consts) (kdf : KdfEnv) (s : Ssl) (pms : Option Buf)
    (freePms : Bool) :
    ∀ r ∈ sslGenerateMasterSecret k kdf s pms freePms, ∃ s' pmslen ret events,
      s'.server = s.server ∧ s'.s3.tmp.pms = s.s3.tmp.pms ∧ (∀ b, Event.free b ∉ events) ∧
        r = masterSecretErr s' pms pmslen freePms ret events := by
  intro r mem
  cases cipher : s.s3.tmp.newCipher with
  | none => simp [sslGenerateMasterSecret, cipher] at mem
  | some c =>
    by_cases usesPsk : c.algorithmMkey &&& k.psk = 0
    · rw [MasterSecret.sslGenerateMasterSecret_of_not_psk k kdf s pms freePms cipher usesPsk] at mem
      exact ⟨_, _, _, _, rfl, rfl, by simp, (Option.some.inj mem).symm⟩
    · cases alloc : kdf.alloc with
      | none =>
        rw [MasterSecret.sslGenerateMasterSecret_of_alloc_fail k kdf s pms freePms cipher usesPsk alloc] at mem
        cases mem
        exact ⟨_, _, _, _, rfl, rfl, by simp, rfl⟩
      | some addr =>
        rw [MasterSecret.sslGenerateMasterSecret_of_psk k kdf s pms freePms cipher usesPsk addr alloc] at mem
        cases mem
        refine ⟨_, _, _, _, ?_, ?_, fun b => ?_, rfl⟩
        · rfl
        · rfl
        · cases s.s3.tmp.psk <;> simp

/-- `ssl_generate_master_secret` leaves the stored premaster on a server and clears it on a
client. -/
private theorem sslGenerateMasterSecret_pms (k : Consts) (kdf : KdfEnv) (s : Ssl) (pms : Option Buf)
    (freePms : Bool) :
    ∀ r ∈ sslGenerateMasterSecret k kdf s pms freePms,
      r.1.s3.tmp.pms = if s.server then s.s3.tmp.pms else none := by
  intro r mem
  obtain ⟨s', _, _, _, server, stored, -, rfl⟩ := sslGenerateMasterSecret_inv k kdf s pms freePms r mem
  rw [masterSecretErr_pms_eq, server, stored]

/-- A premaster left as it was or cleared: the new secret is not stored. -/
def NotStored (s s' : Ssl) : Prop := s'.s3.tmp.pms = s.s3.tmp.pms ∨ s'.s3.tmp.pms = none

theorem NotStored.refl (s : Ssl) : NotStored s s := .inl rfl

private theorem sslGensecret_notStored (k : Consts) (kdf : KdfEnv) (t13 : Tls13Env) (s : Ssl) (pms : Buf) :
    ∀ r ∈ sslGensecret k kdf t13 s pms, NotStored s r.1 := by
  intro r mem
  unfold sslGensecret at mem
  split at mem
  · dsimp only at mem
    split_ifs at mem <;> cases mem <;> exact .refl s
  · have cleared := sslGenerateMasterSecret_pms k kdf s (some pms) false r mem
    split_ifs at cleared
    · exact .inl cleared
    · exact .inr cleared

/-- `ssl_gensecret` releases no buffer without zeroing it. -/
private theorem sslGensecret_no_free (k : Consts) (kdf : KdfEnv) (t13 : Tls13Env) (s : Ssl) (pms : Buf) :
    ∀ r ∈ sslGensecret k kdf t13 s pms, ∀ b, Event.free b ∉ r.2.2 := by
  intro r mem
  unfold sslGensecret at mem
  split at mem
  · dsimp only at mem
    split_ifs at mem <;> cases mem <;> simp
  · obtain ⟨_, _, _, _, -, -, clean, rfl⟩ := sslGenerateMasterSecret_inv k kdf s (some pms) false r mem
    exact fun b => free_not_mem_masterSecretErr (clean b) _ _ _ _ _

/-! ### What each call can do -/

/-- `ssl_derive` reaches its `OPENSSL_malloc`: both keys are given, the context is made and
initialised, the peer is set and the length is reported. -/
def deriveAllocates (env : KexEnv) (privkey pubkey : Option Nat) : Bool :=
  privkey.isSome && pubkey.isSome && env.initOk && env.setPeerOk && env.sizeOk

/-- `ssl_decapsulate` reaches its `OPENSSL_malloc`. -/
def decapsulateAllocates (env : KexEnv) (privkey : Option Nat) : Bool :=
  privkey.isSome && env.initOk && env.sizeOk

/-- `ssl_encapsulate` reaches its two `OPENSSL_malloc` calls. -/
def encapsulateAllocates (env : KexEnv) (pubkey : Option Nat) : Bool :=
  pubkey.isSome && env.initOk && env.sizeOk && env.pmslen != 0 && env.ctlen != 0

section Cases

variable (k : Consts) (kdf : KdfEnv) (t13 : Tls13Env) (env : KexEnv) (s : Ssl) (gensecret : Bool)

/-- Every result of the part `ssl_derive` and `ssl_decapsulate` share: the allocation fails and
nothing is done; the mechanism fails and the secret buffer is clear-freed; or the call ends
through `secretTail` and the `err:` label clear-frees the buffer `secretTail` still holds. -/
private theorem fillSecret_cases : ∀ r ∈ fillSecret k kdf t13 env s gensecret,
    (env.pmsAlloc = none ∧ r = (s, 0, [])) ∨
    ∃ addr, env.pmsAlloc = some addr ∧
      ((env.opOk = false ∧ r = (s, 0, [.clearFree ⟨addr, env.secret⟩ env.secret.length])) ∨
        (env.opOk = true ∧ ∃ q ∈ secretTail k kdf t13 s gensecret ⟨addr, env.secret⟩,
          r = (q.1, q.2.1, q.2.2.2 ++ opensslClearFree q.2.2.1 env.secret.length))) := by
  intro r mem
  unfold fillSecret at mem
  split at mem
  · rename_i failed
    cases mem
    exact .inl ⟨failed, rfl⟩
  · rename_i addr allocated
    refine .inr ⟨addr, allocated, ?_⟩
    dsimp only at mem
    split at mem
    · rename_i failed
      cases mem
      exact .inl ⟨by simpa using failed, rfl⟩
    · rename_i filled
      obtain ⟨q, tail, rfl⟩ := Option.map_eq_some'.mp mem
      exact .inr ⟨by simpa using filled, q, tail, rfl⟩

theorem sslDerive_cases (privkey pubkey : Option Nat) :
    ∀ r ∈ sslDerive k kdf t13 env s privkey pubkey gensecret,
      (deriveAllocates env privkey pubkey = false ∧ r = (s, 0, [])) ∨
        (deriveAllocates env privkey pubkey = true ∧ r ∈ fillSecret k kdf t13 env s gensecret) := by
  unfold sslDerive deriveAllocates
  rcases privkey with _ | a <;> rcases pubkey with _ | b
  any_goals (rintro r ⟨⟩; exact .inl ⟨rfl, rfl⟩)
  cases env.initOk <;> cases env.setPeerOk <;> cases env.sizeOk
  all_goals first
    | (rintro r ⟨⟩; exact .inl ⟨rfl, rfl⟩)
    | exact fun r mem => .inr ⟨rfl, mem⟩

theorem sslDecapsulate_cases (privkey : Option Nat) :
    ∀ r ∈ sslDecapsulate k kdf t13 env s privkey gensecret,
      (decapsulateAllocates env privkey = false ∧ r = (s, 0, [])) ∨
        (decapsulateAllocates env privkey = true ∧ r ∈ fillSecret k kdf t13 env s gensecret) := by
  unfold sslDecapsulate decapsulateAllocates
  rcases privkey with _ | a
  · rintro r ⟨⟩
    exact .inl ⟨rfl, rfl⟩
  cases env.initOk <;> cases env.sizeOk
  all_goals first
    | (rintro r ⟨⟩; exact .inl ⟨rfl, rfl⟩)
    | exact fun r mem => .inr ⟨rfl, mem⟩

/-- Every result of `ssl_encapsulate`: it stops before allocating, with nothing done; an
allocation fails and the buffer it did get is released; the mechanism fails and both buffers are
released; or the call ends through `secretTail`, and the ciphertext goes to the caller when that
returns a positive value and is freed otherwise. -/
theorem sslEncapsulate_cases (pubkey : Option Nat) :
    ∀ r ∈ sslEncapsulate k kdf t13 env s pubkey gensecret,
      (encapsulateAllocates env pubkey = false ∧ r = (s, 0, none, [])) ∨
      (encapsulateAllocates env pubkey = true ∧ (env.pmsAlloc = none ∨ env.ctAlloc = none) ∧
        r = (s, 0, none, opensslClearFree (env.pmsAlloc.map (⟨·, []⟩)) env.pmslen ++
          opensslFree (env.ctAlloc.map (⟨·, []⟩)))) ∨
      ∃ pmsAddr ctAddr, encapsulateAllocates env pubkey = true ∧ env.pmsAlloc = some pmsAddr ∧
        env.ctAlloc = some ctAddr ∧
        ((env.opOk = false ∧ r = (s, 0, none,
            [.clearFree ⟨pmsAddr, env.secret⟩ env.secret.length, .free ⟨ctAddr, env.ct⟩])) ∨
          (env.opOk = true ∧ ∃ q ∈ secretTail k kdf t13 s gensecret ⟨pmsAddr, env.secret⟩,
            r = (q.1, q.2.1, if q.2.1 > 0 then some ⟨ctAddr, env.ct⟩ else none,
              q.2.2.2 ++ opensslClearFree q.2.2.1 env.secret.length ++
                opensslFree (if q.2.1 > 0 then none else some ⟨ctAddr, env.ct⟩)))) := by
  unfold sslEncapsulate encapsulateAllocates
  rcases pubkey with _ | b
  · rintro r ⟨⟩
    exact .inl ⟨rfl, rfl⟩
  simp only [bne]
  cases env.initOk <;> cases env.sizeOk <;> cases env.pmslen == 0 <;> cases env.ctlen == 0
  all_goals try (rintro r ⟨⟩; exact .inl ⟨rfl, rfl⟩)
  rw [if_neg nofun]
  intro r mem
  split at mem
  · rename_i pmsAddr ctAddr allocated ctAllocated
    refine .inr (.inr ⟨pmsAddr, ctAddr, rfl, allocated, ctAllocated, ?_⟩)
    split at mem
    · rename_i failed
      cases mem
      exact .inl ⟨by simpa using failed, rfl⟩
    · rename_i filled
      obtain ⟨q, tail, rfl⟩ := Option.map_eq_some'.mp mem
      exact .inr ⟨by simpa using filled, q, tail, rfl⟩
  · rename_i notBoth
    cases mem
    refine .inr (.inl ⟨rfl, ?_, rfl⟩)
    cases allocated : env.pmsAlloc with
    | none => exact .inl rfl
    | some pmsAddr =>
      exact .inr (Option.eq_none_iff_forall_not_mem.mpr fun ctAddr => notBoth pmsAddr ctAddr allocated)

end Cases

/-! ### With `gensecret = 0` -/

/-- What the three functions promise with `gensecret = 0`, where `ok` says that every step was
reached and succeeded: `1` is returned exactly then, and the premaster is then the secret the
mechanism just wrote in the buffer it allocated, with the rest of the connection as it was; on
every other path the connection is left as it was. -/
structure StoresSecret (env : KexEnv) (s : Ssl) (ok : Bool) (r : Ssl × Int) : Prop where
  returns : r.2 = if ok then 1 else 0
  stored : ok = true → ∃ addr, env.pmsAlloc = some addr ∧ r.1.s3.tmp.pms = some ⟨addr, env.secret⟩ ∧
    r.1 = { s with s3 := { s.s3 with tmp := { s.s3.tmp with pms := r.1.s3.tmp.pms } } }
  kept : ok = false → r.1 = s

private theorem StoresSecret.fail (env : KexEnv) (s : Ssl) : StoresSecret env s false (s, 0) :=
  ⟨rfl, nofun, fun _ => rfl⟩

/-- Every step of `ssl_derive` is reached and succeeds: both keys are given, the context is made
and initialised, the peer is set, the length is reported, and the buffer is allocated and
filled. -/
def deriveOk (env : KexEnv) (privkey pubkey : Option Nat) : Bool :=
  privkey.isSome && pubkey.isSome && env.initOk && env.setPeerOk && env.sizeOk &&
    env.pmsAlloc.isSome && env.opOk

/-- Every step of `ssl_decapsulate` is reached and succeeds. -/
def decapsulateOk (env : KexEnv) (privkey : Option Nat) : Bool :=
  privkey.isSome && env.initOk && env.sizeOk && env.pmsAlloc.isSome && env.opOk

/-- Every step of `ssl_encapsulate` is reached and succeeds; it allocates the two buffers only
after the length query reported two non-zero lengths. -/
def encapsulateOk (env : KexEnv) (pubkey : Option Nat) : Bool :=
  pubkey.isSome && env.initOk && env.sizeOk && env.pmslen != 0 && env.ctlen != 0 &&
    env.pmsAlloc.isSome && env.ctAlloc.isSome && env.opOk

section Store

variable (k : Consts) (kdf : KdfEnv) (t13 : Tls13Env) (env : KexEnv) (s : Ssl)

private theorem fillSecret_stores :
    ∃ r, fillSecret k kdf t13 env s false = some r ∧
      StoresSecret env s (env.pmsAlloc.isSome && env.opOk) (r.1, r.2.1) := by
  unfold fillSecret
  cases alloc : env.pmsAlloc with
  | none => exact ⟨_, rfl, StoresSecret.fail env s⟩
  | some addr =>
    cases op : env.opOk
    · exact ⟨_, rfl, StoresSecret.fail env s⟩
    · exact ⟨_, rfl, rfl, fun _ => ⟨addr, alloc, rfl, rfl⟩, nofun⟩

private theorem sslDerive_stores (privkey pubkey : Option Nat) :
    ∃ r, sslDerive k kdf t13 env s privkey pubkey false = some r ∧
      StoresSecret env s (deriveOk env privkey pubkey) (r.1, r.2.1) := by
  unfold sslDerive deriveOk
  rcases privkey with _ | a <;> rcases pubkey with _ | b
  any_goals exact ⟨_, rfl, StoresSecret.fail env s⟩
  cases env.initOk <;> cases env.setPeerOk <;> cases env.sizeOk
  all_goals first
    | exact ⟨_, rfl, StoresSecret.fail env s⟩
    | exact fillSecret_stores k kdf t13 env s

private theorem sslDecapsulate_stores (privkey : Option Nat) :
    ∃ r, sslDecapsulate k kdf t13 env s privkey false = some r ∧
      StoresSecret env s (decapsulateOk env privkey) (r.1, r.2.1) := by
  unfold sslDecapsulate decapsulateOk
  rcases privkey with _ | a
  · exact ⟨_, rfl, StoresSecret.fail env s⟩
  cases env.initOk <;> cases env.sizeOk
  all_goals first
    | exact ⟨_, rfl, StoresSecret.fail env s⟩
    | exact fillSecret_stores k kdf t13 env s

private theorem sslEncapsulate_stores (pubkey : Option Nat) :
    ∃ r, sslEncapsulate k kdf t13 env s pubkey false = some r ∧
      StoresSecret env s (encapsulateOk env pubkey) (r.1, r.2.1) := by
  unfold sslEncapsulate encapsulateOk
  rcases pubkey with _ | b
  · exact ⟨_, rfl, StoresSecret.fail env s⟩
  simp only [bne]
  cases env.initOk <;> cases env.sizeOk <;> cases env.pmslen == 0 <;> cases env.ctlen == 0
  all_goals try exact ⟨_, rfl, StoresSecret.fail env s⟩
  cases alloc : env.pmsAlloc <;> cases env.ctAlloc
  all_goals try exact ⟨_, rfl, StoresSecret.fail env s⟩
  cases env.opOk
  · exact ⟨_, rfl, StoresSecret.fail env s⟩
  · exact ⟨_, rfl, rfl, fun _ => ⟨_, alloc, rfl, rfl⟩, nofun⟩

end Store

/-! ### With `gensecret = 1` -/

section Gensecret

variable (k : Consts) (kdf : KdfEnv) (t13 : Tls13Env) (env : KexEnv) (s : Ssl)

private theorem secretTail_notStored (pms : Buf) :
    ∀ q ∈ secretTail k kdf t13 s true pms, NotStored s q.1 := by
  intro q mem
  obtain ⟨g, gen, rfl⟩ := Option.map_eq_some'.mp mem
  exact sslGensecret_notStored k kdf t13 s pms g gen

private theorem fillSecret_notStored : ∀ r ∈ fillSecret k kdf t13 env s true, NotStored s r.1 := by
  intro r mem
  obtain ⟨-, rfl⟩ | ⟨_, -, ⟨-, rfl⟩ | ⟨-, q, tail, rfl⟩⟩ := fillSecret_cases k kdf t13 env s true r mem
  · exact .refl s
  · exact .refl s
  · exact secretTail_notStored k kdf t13 s _ q tail

private theorem sslDerive_notStored (privkey pubkey : Option Nat) :
    ∀ r ∈ sslDerive k kdf t13 env s privkey pubkey true, NotStored s r.1 := by
  intro r mem
  obtain ⟨-, rfl⟩ | ⟨-, filled⟩ := sslDerive_cases k kdf t13 env s true privkey pubkey r mem
  · exact .refl s
  · exact fillSecret_notStored k kdf t13 env s r filled

private theorem sslDecapsulate_notStored (privkey : Option Nat) :
    ∀ r ∈ sslDecapsulate k kdf t13 env s privkey true, NotStored s r.1 := by
  intro r mem
  obtain ⟨-, rfl⟩ | ⟨-, filled⟩ := sslDecapsulate_cases k kdf t13 env s true privkey r mem
  · exact .refl s
  · exact fillSecret_notStored k kdf t13 env s r filled

private theorem sslEncapsulate_notStored (pubkey : Option Nat) :
    ∀ r ∈ sslEncapsulate k kdf t13 env s pubkey true, NotStored s r.1 := by
  intro r mem
  obtain ⟨-, rfl⟩ | ⟨-, -, rfl⟩ | ⟨_, _, -, -, -, ⟨-, rfl⟩ | ⟨-, q, tail, rfl⟩⟩ :=
    sslEncapsulate_cases k kdf t13 env s true pubkey r mem
  · exact .refl s
  · exact .refl s
  · exact .refl s
  · exact secretTail_notStored k kdf t13 s _ q tail

end Gensecret

/-! ### With `gensecret = 1` on a TLS 1.3 connection or a server -/

section Kept

variable (k : Consts) (kdf : KdfEnv) (t13 : Tls13Env) (env : KexEnv) (s : Ssl)
variable (keeps : (s.isTls13 || s.server) = true)
include keeps

/-- Only a pre-TLS 1.3 client forgets the stored premaster in `ssl_gensecret`. -/
private theorem sslGensecret_pms_kept (pms : Buf) :
    ∀ r ∈ sslGensecret k kdf t13 s pms, r.1.s3.tmp.pms = s.s3.tmp.pms := by
  intro r mem
  unfold sslGensecret at mem
  split at mem
  · dsimp only at mem
    split_ifs at mem <;> cases mem <;> rfl
  · rename_i classic
    rw [sslGenerateMasterSecret_pms k kdf s (some pms) false r mem, if_pos]
    simpa [classic] using keeps

theorem secretTail_pms_kept (pms : Buf) :
    ∀ q ∈ secretTail k kdf t13 s true pms, q.1.s3.tmp.pms = s.s3.tmp.pms := by
  intro q mem
  obtain ⟨g, gen, rfl⟩ := Option.map_eq_some'.mp mem
  exact sslGensecret_pms_kept k kdf t13 s keeps pms g gen

theorem fillSecret_pms_kept :
    ∀ r ∈ fillSecret k kdf t13 env s true, r.1.s3.tmp.pms = s.s3.tmp.pms := by
  intro r mem
  obtain ⟨-, rfl⟩ | ⟨_, -, ⟨-, rfl⟩ | ⟨-, q, tail, rfl⟩⟩ := fillSecret_cases k kdf t13 env s true r mem
  · rfl
  · rfl
  · exact secretTail_pms_kept k kdf t13 s keeps _ q tail

end Kept

/-! ### The ciphertext of `ssl_encapsulate` -/

/-- `ssl_encapsulate` writes `*ctp` and `*ctlenp` exactly when it returns a positive value, and
what it writes is the ciphertext the mechanism made, in the buffer allocated for it. -/
private theorem sslEncapsulate_ct (k : Consts) (kdf : KdfEnv) (t13 : Tls13Env) (env : KexEnv) (s : Ssl)
    (pubkey : Option Nat) (gensecret : Bool) :
    ∀ r ∈ sslEncapsulate k kdf t13 env s pubkey gensecret,
      (0 < r.2.1 ↔ r.2.2.1.isSome) ∧
        ∀ ct, r.2.2.1 = some ct → ∃ addr, env.ctAlloc = some addr ∧ ct = ⟨addr, env.ct⟩ := by
  intro r mem
  obtain ⟨-, rfl⟩ | ⟨-, -, rfl⟩ | ⟨_, ctAddr, -, -, ctAllocated, ⟨-, rfl⟩ | ⟨-, q, -, rfl⟩⟩ :=
    sslEncapsulate_cases k kdf t13 env s gensecret pubkey r mem
  · simp
  · simp
  · simp
  · by_cases pos : q.2.1 > 0
    · simp only [if_pos pos, Option.isSome_some, iff_true, Option.some.injEq]
      exact ⟨pos, fun ct same => ⟨ctAddr, ctAllocated, same.symm⟩⟩
    · simp [if_neg pos, pos]

/-! ### The secret buffer is erased -/

/-- The secret buffer at `addr` when the call returns: it is the stored premaster, which only
`gensecret = 0` allows, or it has been clear-freed over at least the bytes it holds. -/
def SecretErased (gensecret : Bool) (addr : Nat) (secret : List UInt8) (s : Ssl)
    (events : List Event) : Prop :=
  (gensecret = false ∧ s.s3.tmp.pms = some ⟨addr, secret⟩) ∨
    ∃ bytes len, Event.clearFree ⟨addr, bytes⟩ len ∈ events ∧ bytes.length ≤ len

theorem SecretErased.append {gensecret : Bool} {addr : Nat} {secret : List UInt8} {s : Ssl}
    {events : List Event} (erased : SecretErased gensecret addr secret s events) (more : List Event) :
    SecretErased gensecret addr secret s (events ++ more) := by
  obtain kept | ⟨bytes, len, mem, covers⟩ := erased
  · exact .inl kept
  · exact .inr ⟨bytes, len, List.mem_append_left more mem, covers⟩

/-- What `ssl_derive` and `ssl_decapsulate` promise for the connection and the events they return:
no buffer is released without being zeroed, and once the secret buffer is allocated (`reached`)
it is erased. -/
structure ErasesSecret (gensecret : Bool) (env : KexEnv) (reached : Bool) (r : Ssl × List Event) :
    Prop where
  noFree : ∀ b, Event.free b ∉ r.2
  erased : reached = true → ∀ addr, env.pmsAlloc = some addr →
    SecretErased gensecret addr env.secret r.1 r.2

theorem ErasesSecret.idle (gensecret : Bool) (env : KexEnv) (s : Ssl) :
    ErasesSecret gensecret env false (s, []) :=
  ⟨fun _ => List.not_mem_nil _, nofun⟩

/-- What `ssl_encapsulate` promises: only its ciphertext buffer is released without being zeroed,
and once both buffers are allocated the secret buffer is erased and the ciphertext buffer is
handed to the caller or freed. -/
structure ErasesSecretAndCt (gensecret : Bool) (env : KexEnv) (reached : Bool)
    (r : Ssl × Option Buf × List Event) : Prop where
  freesCt : ∀ b, Event.free b ∈ r.2.2 → env.ctAlloc = some b.addr
  erased : reached = true → ∀ addr, env.pmsAlloc = some addr →
    SecretErased gensecret addr env.secret r.1 r.2.2
  ctOwned : reached = true → ∀ ctAddr, env.ctAlloc = some ctAddr →
    (∃ ct, r.2.1 = some ct ∧ ct.addr = ctAddr) ∨ ∃ bytes, Event.free ⟨ctAddr, bytes⟩ ∈ r.2.2

theorem ErasesSecretAndCt.idle (gensecret : Bool) (env : KexEnv) (s : Ssl) :
    ErasesSecretAndCt gensecret env false (s, none, []) :=
  ⟨fun _ => nofun, nofun, nofun⟩

section Erase

variable (k : Consts) (kdf : KdfEnv) (t13 : Tls13Env) (env : KexEnv) (s : Ssl) (gensecret : Bool)

/-- After `secretTail` and the `OPENSSL_clear_free(pms, pmslen)` of the `err:` label, the secret
is stored or clear-freed, and nothing is freed without zeroing. -/
private theorem secretTail_erases (pms : Buf) :
    ∀ q ∈ secretTail k kdf t13 s gensecret pms,
      (∀ b, Event.free b ∉ q.2.2.2 ++ opensslClearFree q.2.2.1 pms.bytes.length) ∧
        SecretErased gensecret pms.addr pms.bytes q.1 (q.2.2.2 ++ opensslClearFree q.2.2.1 pms.bytes.length) := by
  intro q mem
  cases gensecret
  · cases mem
    exact ⟨by simp, .inl ⟨rfl, rfl⟩⟩
  · obtain ⟨g, gen, rfl⟩ := Option.map_eq_some'.mp mem
    exact ⟨by simpa using sslGensecret_no_free k kdf t13 s pms g gen,
      .inr ⟨pms.bytes, _, by simp, le_rfl⟩⟩

private theorem fillSecret_erases :
    ∀ r ∈ fillSecret k kdf t13 env s gensecret, ErasesSecret gensecret env true (r.1, r.2.2) := by
  intro r mem
  obtain ⟨failed, rfl⟩ | ⟨addr, allocated, ⟨-, rfl⟩ | ⟨-, q, tail, rfl⟩⟩ :=
    fillSecret_cases k kdf t13 env s gensecret r mem
  · exact ⟨fun _ => List.not_mem_nil _, fun _ addr same => nomatch failed.symm.trans same⟩
  · refine ⟨by simp, fun _ a same => ?_⟩
    cases allocated.symm.trans same
    exact .inr ⟨env.secret, _, by simp, le_rfl⟩
  · obtain ⟨clean, erased⟩ := secretTail_erases k kdf t13 s gensecret _ q tail
    refine ⟨clean, fun _ a same => ?_⟩
    cases allocated.symm.trans same
    exact erased

theorem sslDerive_erases (privkey pubkey : Option Nat) :
    ∀ r ∈ sslDerive k kdf t13 env s privkey pubkey gensecret,
      ErasesSecret gensecret env (deriveAllocates env privkey pubkey) (r.1, r.2.2) := by
  intro r mem
  obtain ⟨stopped, rfl⟩ | ⟨reached, filled⟩ := sslDerive_cases k kdf t13 env s gensecret privkey pubkey r mem
  · rw [stopped]
    exact ErasesSecret.idle gensecret env s
  · rw [reached]
    exact fillSecret_erases k kdf t13 env s gensecret r filled

theorem sslDecapsulate_erases (privkey : Option Nat) :
    ∀ r ∈ sslDecapsulate k kdf t13 env s privkey gensecret,
      ErasesSecret gensecret env (decapsulateAllocates env privkey) (r.1, r.2.2) := by
  intro r mem
  obtain ⟨stopped, rfl⟩ | ⟨reached, filled⟩ := sslDecapsulate_cases k kdf t13 env s gensecret privkey r mem
  · rw [stopped]
    exact ErasesSecret.idle gensecret env s
  · rw [reached]
    exact fillSecret_erases k kdf t13 env s gensecret r filled

/-- The `err:` label of `ssl_encapsulate` after a failed allocation: the buffer it did get holds
nothing yet and is released. -/
private theorem encapsulateErr_erases (reached : Bool) :
    ErasesSecretAndCt gensecret env reached (s, none,
      opensslClearFree (env.pmsAlloc.map (⟨·, []⟩)) env.pmslen ++ opensslFree (env.ctAlloc.map (⟨·, []⟩))) := by
  refine ⟨?_, fun _ addr allocated => .inr ⟨[], env.pmslen, by simp [allocated], Nat.zero_le _⟩,
    fun _ ctAddr allocated => .inr ⟨[], by simp [allocated]⟩⟩
  cases env.pmsAlloc <;> cases env.ctAlloc <;> simp

theorem sslEncapsulate_erases (pubkey : Option Nat) :
    ∀ r ∈ sslEncapsulate k kdf t13 env s pubkey gensecret,
      ErasesSecretAndCt gensecret env (encapsulateAllocates env pubkey) (r.1, r.2.2.1, r.2.2.2) := by
  intro r mem
  obtain ⟨stopped, rfl⟩ | ⟨-, -, rfl⟩ |
      ⟨pmsAddr, ctAddr, -, allocated, ctAllocated, ⟨-, rfl⟩ | ⟨-, q, tail, rfl⟩⟩ :=
    sslEncapsulate_cases k kdf t13 env s gensecret pubkey r mem
  · rw [stopped]
    exact ErasesSecretAndCt.idle gensecret env s
  · exact encapsulateErr_erases env s gensecret _
  · refine ⟨by simp [ctAllocated], fun _ a same => ?_, fun _ c same => ?_⟩
    · cases allocated.symm.trans same
      exact .inr ⟨env.secret, _, by simp, le_rfl⟩
    · cases ctAllocated.symm.trans same
      exact .inr ⟨env.ct, by simp⟩
  · obtain ⟨clean, erased⟩ := secretTail_erases k kdf t13 s gensecret _ q tail
    refine ⟨fun b freed => ?_, fun _ a same => ?_, fun _ c same => ?_⟩
    · obtain inTail | inFree := List.mem_append.mp freed
      · exact absurd inTail (clean b)
      · split_ifs at inFree <;> simp at inFree
        simp [inFree, ctAllocated]
    · cases allocated.symm.trans same
      exact erased.append _
    · cases ctAllocated.symm.trans same
      by_cases pos : q.2.1 > 0
      · exact .inl ⟨_, if_pos pos, rfl⟩
      · exact .inr ⟨env.ct, by simp [pos]⟩

end Erase

/-- For every key, every ciphertext and every outcome of the `EVP_PKEY` calls, the allocations and
the key schedules: with `gensecret = 0`, `ssl_derive`, `ssl_decapsulate` and `ssl_encapsulate`
return `1` exactly when every step is reached and succeeds, the premaster is then the secret the
mechanism made, and on every other path the connection is left as it was; with `gensecret = 1`
the new secret is never stored as the premaster; and `ssl_encapsulate` hands its caller the
ciphertext exactly when it returns a positive value. -/
theorem kex_premaster_ownership (k : Consts) (kdf : KdfEnv) (t13 : Tls13Env) (env : KexEnv)
    (s : Ssl) (privkey pubkey : Option Nat) :
    ((∃ r, sslDerive k kdf t13 env s privkey pubkey false = some r ∧
        StoresSecret env s (deriveOk env privkey pubkey) (r.1, r.2.1)) ∧
      (∃ r, sslDecapsulate k kdf t13 env s privkey false = some r ∧
        StoresSecret env s (decapsulateOk env privkey) (r.1, r.2.1)) ∧
      (∃ r, sslEncapsulate k kdf t13 env s pubkey false = some r ∧
        StoresSecret env s (encapsulateOk env pubkey) (r.1, r.2.1))) ∧
    ((∀ r ∈ sslDerive k kdf t13 env s privkey pubkey true, NotStored s r.1) ∧
      (∀ r ∈ sslDecapsulate k kdf t13 env s privkey true, NotStored s r.1) ∧
      (∀ r ∈ sslEncapsulate k kdf t13 env s pubkey true, NotStored s r.1)) ∧
    ∀ gensecret, ∀ r ∈ sslEncapsulate k kdf t13 env s pubkey gensecret,
      (0 < r.2.1 ↔ r.2.2.1.isSome) ∧
        ∀ ct, r.2.2.1 = some ct → ∃ addr, env.ctAlloc = some addr ∧ ct = ⟨addr, env.ct⟩ :=
  ⟨⟨sslDerive_stores k kdf t13 env s privkey pubkey, sslDecapsulate_stores k kdf t13 env s privkey,
      sslEncapsulate_stores k kdf t13 env s pubkey⟩,
    ⟨sslDerive_notStored k kdf t13 env s privkey pubkey, sslDecapsulate_notStored k kdf t13 env s privkey,
      sslEncapsulate_notStored k kdf t13 env s pubkey⟩,
    sslEncapsulate_ct k kdf t13 env s pubkey⟩

/-- `ssl_derive`, `ssl_decapsulate` and `ssl_encapsulate` leave no copy of the secret behind:
once they have allocated the secret buffer it is, on return, the stored premaster (only with
`gensecret = 0`) or clear-freed over at least the bytes it holds; and no buffer is released
without being zeroed but the ciphertext buffer of `ssl_encapsulate`, which goes to the caller or
is freed. -/
theorem kex_local_secret_erased (k : Consts) (kdf : KdfEnv) (t13 : Tls13Env) (env : KexEnv)
    (s : Ssl) (privkey pubkey : Option Nat) (gensecret : Bool) :
    (∀ r ∈ sslDerive k kdf t13 env s privkey pubkey gensecret,
      ErasesSecret gensecret env (deriveAllocates env privkey pubkey) (r.1, r.2.2)) ∧
    (∀ r ∈ sslDecapsulate k kdf t13 env s privkey gensecret,
      ErasesSecret gensecret env (decapsulateAllocates env privkey) (r.1, r.2.2)) ∧
    ∀ r ∈ sslEncapsulate k kdf t13 env s pubkey gensecret,
      ErasesSecretAndCt gensecret env (encapsulateAllocates env pubkey) (r.1, r.2.2.1, r.2.2.2) :=
  ⟨sslDerive_erases k kdf t13 env s gensecret privkey pubkey,
    sslDecapsulate_erases k kdf t13 env s gensecret privkey,
    sslEncapsulate_erases k kdf t13 env s gensecret pubkey⟩

end S3Lib.KeyExchange
