import S3Lib.Properties.KeyExchange

/-! # The premaster over whole runs

A run interleaves, in any order, the calls of `s3_lib.c` that make, store or release the
premaster: `ssl_derive`, `ssl_decapsulate` and `ssl_encapsulate`, each with its own outcome of
the `EVP_PKEY` calls, the allocator and the key schedules, and `ssl3_clear`; `ssl3_free` closes
it. A call allocates at most one secret buffer (`allocates`). Within its call that buffer is
clear-freed or becomes the stored premaster (`ErasesSecret`), and `ssl3_clear` and `ssl3_free`
clear-free the stored premaster. A premaster is lost only to a later call that replaces it: one
that stores a new secret, or a `gensecret` call on a pre-TLS 1.3 client, whose
`ssl_generate_master_secret` sets `s->s3.tmp.pms` to `NULL` (`mayReplace`). A run that starts no
such call while a premaster is stored (`careful`) zeroes every secret buffer it allocates, in the
log of the call that allocated it, of a later call, or of `ssl3_free`.

The handshake's own use of the stored premaster, a call of `ssl_generate_master_secret` on
`s->s3.tmp.pms` from outside this file, is not a step of the run.
-/

namespace S3Lib.SecretRun

open S3Lib S3Lib.KeyExchange

/-- The calls of a run, each with what the functions outside `s3_lib.c` do in it. -/
inductive KexOp where
  | derive (kdf : KdfEnv) (t13 : Tls13Env) (env : KexEnv) (privkey pubkey : Option Nat)
      (gensecret : Bool)
  | decapsulate (kdf : KdfEnv) (t13 : Tls13Env) (env : KexEnv) (privkey : Option Nat)
      (gensecret : Bool)
  | encapsulate (kdf : KdfEnv) (t13 : Tls13Env) (env : KexEnv) (pubkey : Option Nat)
      (gensecret : Bool)
  | clear (wbioOk : Bool)

/-- The connection and the events after one call; `none` where the call reads through a `NULL`
`new_cipher`. -/
def kexStep (k : Consts) (s : Ssl) : KexOp → Option (Ssl × List Event)
  | .derive kdf t13 env privkey pubkey g =>
    (sslDerive k kdf t13 env s privkey pubkey g).map fun r => (r.1, r.2.2)
  | .decapsulate kdf t13 env privkey g =>
    (sslDecapsulate k kdf t13 env s privkey g).map fun r => (r.1, r.2.2)
  | .encapsulate kdf t13 env pubkey g =>
    (sslEncapsulate k kdf t13 env s pubkey g).map fun r => (r.1, r.2.2.2)
  | .clear wbioOk => some ((ssl3Clear k wbioOk s).1, (ssl3Clear k wbioOk s).2.2)

/-- The last connection of a run and the events of each of its calls. -/
def kexRun (k : Consts) (s : Ssl) : List KexOp → Option (Ssl × List (List Event))
  | [] => some (s, [])
  | op :: ops =>
    (kexStep k s op).bind fun r => (kexRun k r.1 ops).map fun rest => (rest.1, r.2 :: rest.2)

/-- Where the secret buffer of a call is, when the call reaches its `OPENSSL_malloc` and that
succeeds. -/
def allocates : KexOp → Option Nat
  | .derive _ _ env privkey pubkey _ =>
    if deriveAllocates env privkey pubkey then env.pmsAlloc else none
  | .decapsulate _ _ env privkey _ => if decapsulateAllocates env privkey then env.pmsAlloc else none
  | .encapsulate _ _ env pubkey _ => if encapsulateAllocates env pubkey then env.pmsAlloc else none
  | .clear _ => none

/-- A call that can replace the stored premaster: one with `gensecret = 0`, which stores its
secret, or one on a pre-TLS 1.3 client, whose key schedule forgets the stored premaster. -/
def mayReplace (s : Ssl) : KexOp → Bool
  | .derive _ _ _ _ _ g | .decapsulate _ _ _ _ g | .encapsulate _ _ _ _ g =>
    !g || !(s.isTls13 || s.server)
  | .clear _ => false

/-- No call of the run that can replace the stored premaster starts while one is stored. -/
def careful (k : Consts) : Ssl → List KexOp → Bool
  | _, [] => true
  | s, op :: ops =>
    (!mayReplace s op || s.s3.tmp.pms.isNone) &&
      match kexStep k s op with
      | none => true
      | some r => careful k r.1 ops

/-- The buffer at `addr` is clear-freed over at least the bytes it holds. -/
def Zeroed (addr : Nat) (events : List Event) : Prop :=
  ∃ bytes len, Event.clearFree ⟨addr, bytes⟩ len ∈ events ∧ bytes.length ≤ len

private theorem Zeroed.mono {addr : Nat} {events events' : List Event} (zeroed : Zeroed addr events)
    (sub : events ⊆ events') : Zeroed addr events' := by
  obtain ⟨bytes, len, mem, covers⟩ := zeroed
  exact ⟨bytes, len, sub mem, covers⟩

/-- The releases of `ssl3_free` and `ssl3_clear` zero the stored premaster. -/
private theorem zeroed_s3Releases {s : Ssl} {b : Buf} (stored : s.s3.tmp.pms = some b) :
    Zeroed b.addr (s3Releases s) :=
  ⟨b.bytes, b.bytes.length, by simp [s3Releases, stored], le_rfl⟩

private theorem mem_kexRun_cons {k : Consts} {s : Ssl} {op : KexOp} {ops : List KexOp}
    {r : Ssl × List (List Event)} :
    r ∈ kexRun k s (op :: ops) ↔
      ∃ r₁ ∈ kexStep k s op, ∃ r₂ ∈ kexRun k r₁.1 ops, r = (r₂.1, r₁.2 :: r₂.2) := by
  simp only [kexRun, Option.mem_def, Option.bind_eq_some, Option.map_eq_some']
  constructor
  · rintro ⟨r₁, step, r₂, run, rfl⟩
    exact ⟨r₁, step, r₂, run, rfl⟩
  · rintro ⟨r₁, step, r₂, run, rfl⟩
    exact ⟨r₁, step, r₂, run, rfl⟩

private theorem careful_cons {k : Consts} {s : Ssl} {op : KexOp} {ops : List KexOp}
    (safe : careful k s (op :: ops) = true) :
    (mayReplace s op = true → s.s3.tmp.pms = none) ∧
      ∀ r ∈ kexStep k s op, careful k r.1 ops = true := by
  simp only [careful, Bool.and_eq_true, Bool.or_eq_true, Bool.not_eq_true'] at safe
  refine ⟨fun replaces => ?_, fun r step => ?_⟩
  · simpa [replaces] using safe.1
  · rw [Option.mem_def.mp step] at safe
    exact safe.2

section

variable (k : Consts)

/-- The secret buffer a call allocates is zeroed in that call's events or is then the stored
premaster. -/
private theorem kexStep_allocates {s : Ssl} {op : KexOp} {addr : Nat} (allocated : allocates op = some addr) :
    ∀ r ∈ kexStep k s op, Zeroed addr r.2 ∨ ∃ bytes, r.1.s3.tmp.pms = some ⟨addr, bytes⟩ := by
  have settle : ∀ {g secret} {s' : Ssl} {events : List Event},
      SecretErased g addr secret s' events →
        Zeroed addr events ∨ ∃ bytes, s'.s3.tmp.pms = some ⟨addr, bytes⟩ := by
    rintro g secret s' events (⟨-, stored⟩ | zeroed)
    · exact .inr ⟨secret, stored⟩
    · exact .inl zeroed
  intro r mem
  cases op with
  | derive kdf t13 env privkey pubkey g =>
    obtain ⟨r', ran, rfl⟩ := Option.map_eq_some'.mp mem
    simp only [allocates] at allocated
    split_ifs at allocated with reached
    exact settle ((sslDerive_erases k kdf t13 env s g privkey pubkey r' ran).erased reached addr allocated)
  | decapsulate kdf t13 env privkey g =>
    obtain ⟨r', ran, rfl⟩ := Option.map_eq_some'.mp mem
    simp only [allocates] at allocated
    split_ifs at allocated with reached
    exact settle ((sslDecapsulate_erases k kdf t13 env s g privkey r' ran).erased reached addr allocated)
  | encapsulate kdf t13 env pubkey g =>
    obtain ⟨r', ran, rfl⟩ := Option.map_eq_some'.mp mem
    simp only [allocates] at allocated
    split_ifs at allocated with reached
    exact settle ((sslEncapsulate_erases k kdf t13 env s g pubkey r' ran).erased reached addr allocated)
  | clear => simp [allocates] at allocated

/-- A call that cannot replace the stored premaster zeroes it or leaves it stored. -/
private theorem kexStep_held {s : Ssl} {op : KexOp} {b : Buf} (stored : s.s3.tmp.pms = some b)
    (keeps : mayReplace s op = false) :
    ∀ r ∈ kexStep k s op, Zeroed b.addr r.2 ∨ r.1.s3.tmp.pms = some b := by
  intro r mem
  cases op with
  | derive kdf t13 env privkey pubkey g =>
    obtain ⟨r', ran, rfl⟩ := Option.map_eq_some'.mp mem
    obtain ⟨rfl, kept⟩ : g = true ∧ (s.isTls13 || s.server) = true := by
      simpa only [mayReplace, Bool.or_eq_false_iff, Bool.not_eq_false'] using keeps
    obtain ⟨-, rfl⟩ | ⟨-, filled⟩ := sslDerive_cases k kdf t13 env s true privkey pubkey r' ran
    · exact .inr stored
    · exact .inr ((fillSecret_pms_kept k kdf t13 env s kept r' filled).trans stored)
  | decapsulate kdf t13 env privkey g =>
    obtain ⟨r', ran, rfl⟩ := Option.map_eq_some'.mp mem
    obtain ⟨rfl, kept⟩ : g = true ∧ (s.isTls13 || s.server) = true := by
      simpa only [mayReplace, Bool.or_eq_false_iff, Bool.not_eq_false'] using keeps
    obtain ⟨-, rfl⟩ | ⟨-, filled⟩ := sslDecapsulate_cases k kdf t13 env s true privkey r' ran
    · exact .inr stored
    · exact .inr ((fillSecret_pms_kept k kdf t13 env s kept r' filled).trans stored)
  | encapsulate kdf t13 env pubkey g =>
    obtain ⟨r', ran, rfl⟩ := Option.map_eq_some'.mp mem
    obtain ⟨rfl, kept⟩ : g = true ∧ (s.isTls13 || s.server) = true := by
      simpa only [mayReplace, Bool.or_eq_false_iff, Bool.not_eq_false'] using keeps
    obtain ⟨-, rfl⟩ | ⟨-, -, rfl⟩ | ⟨_, _, -, -, -, ⟨-, rfl⟩ | ⟨-, q, tail, rfl⟩⟩ :=
      sslEncapsulate_cases k kdf t13 env s true pubkey r' ran
    · exact .inr stored
    · exact .inr stored
    · exact .inr stored
    · exact .inr ((secretTail_pms_kept k kdf t13 s kept _ q tail).trans stored)
  | clear wbioOk =>
    cases mem
    refine .inl ((zeroed_s3Releases stored).mono ?_)
    cases wbioOk
    · exact List.Subset.refl _
    · exact List.subset_append_left _ _

/-- Through a careful run a stored premaster stays stored until a call zeroes it. -/
private theorem kexRun_held : ∀ (ops : List KexOp) (s : Ssl) (b : Buf), careful k s ops = true →
    s.s3.tmp.pms = some b →
      ∀ r ∈ kexRun k s ops, Zeroed b.addr r.2.flatten ∨ r.1.s3.tmp.pms = some b
  | [], s, b, _, stored, r, mem => by
    cases mem
    exact .inr stored
  | op :: ops, s, b, safe, stored, r, mem => by
    obtain ⟨r₁, step, r₂, run, rfl⟩ := mem_kexRun_cons.mp mem
    obtain ⟨head, tail⟩ := careful_cons safe
    have keeps : mayReplace s op = false := by
      cases replaces : mayReplace s op
      · rfl
      · simp [head replaces] at stored
    obtain zeroed | held := kexStep_held k stored keeps r₁ step
    · exact .inl (zeroed.mono (List.subset_append_left _ _))
    · exact (kexRun_held ops r₁.1 b (tail r₁ step) held r₂ run).imp
        (fun zeroed => zeroed.mono (List.subset_append_right _ _)) id

/-- In a careful run, every secret buffer a call allocates is zeroed in the events of that call
or a later one, or is the premaster stored at the end. -/
private theorem kexRun_allocated : ∀ (ops : List KexOp) (s : Ssl), careful k s ops = true →
    ∀ r ∈ kexRun k s ops, ∀ i (lt : i < ops.length) (addr : Nat), allocates ops[i] = some addr →
      Zeroed addr (r.2.drop i).flatten ∨ ∃ bytes, r.1.s3.tmp.pms = some ⟨addr, bytes⟩
  | [], _, _, _, _, i, lt, _, _ => absurd lt (Nat.not_lt_zero i)
  | op :: ops, s, safe, r, mem, i, lt, addr, allocated => by
    obtain ⟨r₁, step, r₂, run, rfl⟩ := mem_kexRun_cons.mp mem
    have tail := (careful_cons safe).2 r₁ step
    cases i with
    | zero =>
      obtain zeroed | ⟨bytes, stored⟩ := kexStep_allocates k allocated r₁ step
      · exact .inl (zeroed.mono (List.subset_append_left _ _))
      · obtain zeroed | held := kexRun_held k ops r₁.1 _ tail stored r₂ run
        · exact .inl (zeroed.mono (List.subset_append_right _ _))
        · exact .inr ⟨bytes, held⟩
    | succ j => exact kexRun_allocated ops r₁.1 tail r₂ run j (Nat.lt_of_succ_lt_succ lt) addr allocated

end

/-- A careful run of key exchanges and `ssl3_clear` calls, closed by `ssl3_free`, zeroes every
secret buffer any of its calls allocates: in the events of that call, of a later call, or of
`ssl3_free`. -/
theorem kexRun_zeroes_every_secret (k : Consts) (s : Ssl) (ops : List KexOp)
    (safe : careful k s ops = true) :
    ∀ r ∈ kexRun k s ops, ∀ i (lt : i < ops.length) (addr : Nat), allocates ops[i] = some addr →
      Zeroed addr ((r.2.drop i).flatten ++ (ssl3Free r.1).2) := by
  intro r mem i lt addr allocated
  obtain zeroed | ⟨bytes, stored⟩ := kexRun_allocated k ops s safe r mem i lt addr allocated
  · exact zeroed.mono (List.subset_append_left _ _)
  · exact (zeroed_s3Releases stored).mono fun e mem =>
      List.mem_append_right _ (List.mem_append_left _ mem)

theorem kexRun_zeroes_every_secret_reused_address :
    let env : KexEnv := ⟨true, true, true, 2, 1, some 7, some 8, true, [0xaa, 0xbb], [0xcc]⟩
    let kdf : KdfEnv := ⟨none, fun _ => true⟩
    let t13 : Tls13Env := ⟨true, fun _ => true⟩
    let s : Ssl := { ctx := SslCtx.zeroKeys, isTls13 := true }
    let ops := [KexOp.decapsulate kdf t13 env (some 1) false,
      .derive kdf t13 { env with pmsAlloc := some 9 } (some 1) (some 2) true, .clear true,
      .encapsulate kdf t13 env (some 2) false]
    careful Consts.release s ops = true ∧
      ∀ r ∈ kexRun Consts.release s ops, ∀ i (lt : i < ops.length) (addr : Nat),
        allocates ops[i] = some addr → Zeroed addr ((r.2.drop i).flatten ++ (ssl3Free r.1).2) :=
  ⟨rfl, kexRun_zeroes_every_secret _ _ _ rfl⟩

end S3Lib.SecretRun
