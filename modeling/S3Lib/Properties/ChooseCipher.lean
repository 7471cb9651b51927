import S3Lib.Model.ChooseCipher

/-! # What `ssl3_choose_cipher` returns

The choice is a function of two lists: the priority list `P` and the allow list `A` (with the
ChaCha20-Poly1305 suites of `srvr` moved to the front as a stable partition), the suites of `P`
that are eligible, shared and permitted, and among them the first one at which the loop stops,
the first of them otherwise. `eligible`, `safariFallback` and `prefersSha256` restate the tests of
the loop from the conditions of the source, each in one place and with none of the model's
helpers; the main loop is shown to compute exactly that choice by induction over the priority
list, with the remembered suite `ret` as the accumulator.

The three loops that build `prio_chacha` push each suite of `srvr` once: the list they build is a
permutation of `srvr`, and no stack they reach holds more than the `num` suites reserved for it.
-/

namespace S3Lib.ChooseCipher

open S3Lib

section

variable (k : Consts) (env : ChooseEnv) (s : Ssl)

/-- The priority and allow lists: `(srvr, clnt)` under Suite B; under server preference
`(srvr, clnt)`, with `srvr` partitioned ChaCha20-Poly1305 first when ChaCha priority is set, the
client's first suite is a ChaCha20-Poly1305 one, `srvr` has one and the reservation succeeds;
`(clnt, srvr)` otherwise. -/
def priorityLists (clnt srvr : List Suite) : List Suite × List Suite :=
  if env.suiteb then (srvr, clnt)
  else if s.options.cipherServerPreference then
    if s.options.prioritizeChacha && (clnt.head?.map (isChacha k) == some true) &&
        srvr.any (isChacha k) && env.reserveOk then
      (srvr.filter (isChacha k) ++ srvr.filter (fun c => !isChacha k c), clnt)
    else (srvr, clnt)
  else (clnt, srvr)

/-- A suite whose version range admits the connection's version and, below TLS 1.3, whose key
exchange needs no PSK server callback that is missing, whose key exchange and authentication
meet `s3.tmp.mask_k` and `mask_a` (each with its SRP bit when the connection's SRP mask has
`SSL_kSRP`), and whose ECDHE key exchange, if it has one, passes the temporary EC key check. -/
def eligible (c : Suite) : Bool :=
  (if s.isDtls then !dtlsVersionLt env s.version c.minDtls && !dtlsVersionGt env s.version c.maxDtls
    else decide (c.minTls ≤ s.version ∧ s.version ≤ c.maxTls)) &&
  (s.isTls13 ||
    decide ((c.algorithmMkey &&& k.psk = 0 ∨ s.pskServerCallback = true) ∧
      c.algorithmMkey &&& (env.maskK ||| if s.srpMask &&& k.kSRP = 0 then 0 else k.kSRP) ≠ 0 ∧
      c.algorithmAuth &&& (env.maskA ||| if s.srpMask &&& k.kSRP = 0 then 0 else k.aSRP) ≠ 0 ∧
      (c.algorithmMkey &&& k.kECDHE = 0 ∨ env.checkEcTmpKey c.id = true)))

/-- An eligible suite of the allow list that the security callback permits. -/
def shared (allow : List Suite) (c : Suite) : Bool :=
  eligible k env s c && allow.contains c && env.security c

/-- The Safari fallback: below TLS 1.3, on a connection that looks like Safari, an ECDHE-ECDSA
suite is only remembered. In TLS 1.3 `alg_k` and `alg_a` are never assigned and stay `0`. -/
def safariFallback (c : Suite) : Bool :=
  decide (s.isTls13 = false ∧ c.algorithmMkey &&& k.kECDHE ≠ 0 ∧ c.algorithmAuth &&& k.aECDSA ≠ 0 ∧
    s.s3.isProbablySafari = true)

/-- SHA-256 suites are preferred on a TLS 1.3 connection with a PSK server callback and no
certificate of any type. -/
def prefersSha256 : Bool := s.isTls13 && s.pskServerCallback && !env.hasCert.any id

/-- A shared suite at which the loop stops: no Safari fallback, and SHA-256 when it is
preferred. -/
def decisive (prefer : Bool) (c : Suite) : Bool :=
  !safariFallback k s c && (!prefer || env.mdIsSha256 c.algorithm2)

/-- The suite chosen from the two lists: the first decisive shared suite of `P`, else the first
shared one. -/
def preferredSuite (clnt srvr : List Suite) : Option Suite :=
  let lists := priorityLists k env s clnt srvr
  let candidates := lists.1.filter (shared k env s lists.2)
  candidates.find? (decisive k env s (prefersSha256 env s)) <|> candidates.head?

end

private theorem pushWhere_eq (keep : Suite → Bool) :
    ∀ (stack l : List Suite), pushWhere keep stack l = stack ++ l.filter keep
  | stack, [] => by simp [pushWhere]
  | stack, c :: rest => by
    cases h : keep c <;> simp [pushWhere, h, pushWhere_eq keep _ rest]

private theorem findChacha_eq_none (k : Consts) :
    ∀ srvr : List Suite, findChacha k srvr = none ↔ srvr.any (isChacha k) = false
  | [] => by simp [findChacha]
  | c :: rest => by
    cases h : isChacha k c <;> simp [findChacha, h, findChacha_eq_none k rest]

private theorem findChacha_eq_some (k : Consts) : ∀ {srvr pre : List Suite} {found : Suite}
    {after : List Suite}, findChacha k srvr = some (pre, found, after) →
      srvr = pre ++ found :: after ∧ pre.filter (isChacha k) = [] ∧ isChacha k found = true
  | [], _, _, _, h => by simp [findChacha] at h
  | c :: rest, pre, found, after, h => by
    by_cases hc : isChacha k c
    · simp only [findChacha, hc, if_true, Option.some.injEq, Prod.mk.injEq] at h
      obtain ⟨rfl, rfl, rfl⟩ := h
      exact ⟨rfl, rfl, hc⟩
    · simp only [findChacha, hc, Bool.false_eq_true, if_false, Option.map_eq_some'] at h
      obtain ⟨⟨pre', found', after'⟩, hrest, heq⟩ := h
      simp only [Prod.mk.injEq] at heq
      obtain ⟨rfl, rfl, rfl⟩ := heq
      obtain ⟨rfl, hpre, hfound⟩ := findChacha_eq_some k hrest
      exact ⟨rfl, by simp [hc, hpre], hfound⟩

/-- The three push loops build the stable partition of `srvr`, ChaCha20-Poly1305 first. -/
private theorem prioChacha_eq_filter {k : Consts} {srvr pre : List Suite} {found : Suite}
    {after : List Suite} (h : findChacha k srvr = some (pre, found, after)) :
    prioChacha k srvr found after =
      srvr.filter (isChacha k) ++ srvr.filter (fun c => !isChacha k c) := by
  obtain ⟨hsrvr, hpre, hfound⟩ := findChacha_eq_some k h
  have chachas : srvr.filter (isChacha k) = found :: after.filter (isChacha k) := by
    simp [hsrvr, List.filter_append, hpre, hfound]
  rw [prioChacha, pushWhere_eq, pushWhere_eq, chachas]
  rfl

private theorem chooseLists_eq_priorityLists (k : Consts) (env : ChooseEnv) (s : Ssl)
    (clnt srvr : List Suite) : chooseLists k env s clnt srvr = priorityLists k env s clnt srvr := by
  unfold chooseLists priorityLists serverPrio
  cases env.suiteb <;> cases s.options.cipherServerPreference <;>
    cases s.options.prioritizeChacha <;> simp only [Bool.false_eq_true, if_false, if_true,
      Bool.true_and, Bool.false_and]
  rcases clnt with _ | ⟨c, clnt⟩
  · rfl
  cases hc : isChacha k c
  · simp [hc]
  cases hf : findChacha k srvr with
  | none => simp [hc, (findChacha_eq_none k srvr).mp hf]
  | some r =>
    obtain ⟨pre, found, after⟩ := r
    have hany : srvr.any (isChacha k) = true := by
      cases h : srvr.any (isChacha k)
      · exact absurd ((findChacha_eq_none k srvr).mpr h) (by simp [hf])
      · rfl
    cases env.reserveOk <;> simp [hc, hany, prioChacha_eq_filter hf]

/-- A push loop over a prefix of a list leaves no more suites than over the whole list. -/
private theorem length_pushWhere_le (keep : Suite → Bool) (stack l₁ l₂ : List Suite) :
    (pushWhere keep stack l₁).length ≤ (pushWhere keep stack (l₁ ++ l₂)).length := by
  simp only [pushWhere_eq, List.filter_append, List.length_append]
  omega

/-- When `ssl3_choose_cipher` builds `prio_chacha` (no Suite-B, server preference and ChaCha
priority set, a client list headed by a ChaCha20-Poly1305 suite, such a suite in `srvr`, and the
reservation succeeded), the priority list is `prio_chacha`: the stable partition of `srvr` with
the ChaCha20-Poly1305 suites first, a permutation of `srvr` of its length. Every stack the push
loops reach, after any prefix of either loop, holds at most `num = |srvr|` suites, the capacity
reserved. -/
theorem prioChacha_stable_partition (k : Consts) (env : ChooseEnv) (s : Ssl) (clnt srvr : List Suite)
    (noSuiteb : env.suiteb = false) (serverPreference : s.options.cipherServerPreference = true)
    (prioritize : s.options.prioritizeChacha = true)
    (clientChacha : clnt.head?.map (isChacha k) = some true)
    (serverChacha : srvr.any (isChacha k) = true) (reserved : env.reserveOk = true) :
    ∃ pre found after, findChacha k srvr = some (pre, found, after) ∧
      (chooseLists k env s clnt srvr).1 = prioChacha k srvr found after ∧
      prioChacha k srvr found after =
        srvr.filter (isChacha k) ++ srvr.filter (fun c => !isChacha k c) ∧
      (prioChacha k srvr found after).Perm srvr ∧
      (prioChacha k srvr found after).length = srvr.length ∧
      (∀ a₁ a₂, after = a₁ ++ a₂ → (pushWhere (isChacha k) [found] a₁).length ≤ srvr.length) ∧
      (∀ l₁ l₂, srvr = l₁ ++ l₂ →
        (pushWhere (fun c => !isChacha k c) (pushWhere (isChacha k) [found] after) l₁).length ≤
          srvr.length) := by
  obtain ⟨c, rest, rfl, headChacha⟩ : ∃ c rest, clnt = c :: rest ∧ isChacha k c = true := by
    rcases clnt with _ | ⟨c, rest⟩
    · simp at clientChacha
    · exact ⟨c, rest, rfl, by simpa using clientChacha⟩
  cases found? : findChacha k srvr with
  | none => simp [(findChacha_eq_none k srvr).mp found?] at serverChacha
  | some split =>
    obtain ⟨pre, found, after⟩ := split
    have partition := prioChacha_eq_filter found?
    have perm : (prioChacha k srvr found after).Perm srvr :=
      partition ▸ List.filter_append_perm (isChacha k) srvr
    have stage : (pushWhere (isChacha k) [found] after).length ≤ srvr.length := by
      rw [← perm.length_eq, prioChacha, pushWhere_eq _ (pushWhere _ _ _), List.length_append]
      omega
    refine ⟨pre, found, after, rfl, ?_, partition, perm, perm.length_eq, ?_, ?_⟩
    · simp [chooseLists, serverPrio, noSuiteb, serverPreference, prioritize, headChacha, found?,
        reserved]
    · rintro a₁ a₂ rfl
      exact (length_pushWhere_le _ _ a₁ a₂).trans stage
    · rintro l₁ l₂ rfl
      exact (length_pushWhere_le _ _ l₁ l₂).trans perm.length_eq.le

theorem prioChacha_stable_partition_aes_chacha :
    let chacha : Suite := ⟨0x0300CCA8, 0, 0, 0x80000, 0x303, 0x303, 0, 0, 0, 256⟩
    let aes : Suite := ⟨0x0300C02F, 0, 0, 0x1000, 0x303, 0x303, 0, 0, 0, 128⟩
    let env : ChooseEnv := ⟨false, true, [], 0, 0, fun _ => true, fun _ => true, fun _ => true, id⟩
    let s : Ssl :=
      { ctx := SslCtx.zeroKeys, options := { cipherServerPreference := true, prioritizeChacha := true } }
    let k := Consts.release
    (env.suiteb = false ∧ s.options.cipherServerPreference = true ∧ s.options.prioritizeChacha = true ∧
      [chacha].head?.map (isChacha k) = some true ∧ [aes, chacha].any (isChacha k) = true ∧
      env.reserveOk = true) ∧
    ∃ pre found after, findChacha k [aes, chacha] = some (pre, found, after) ∧
      (chooseLists k env s [chacha] [aes, chacha]).1 = prioChacha k [aes, chacha] found after ∧
      prioChacha k [aes, chacha] found after =
        [aes, chacha].filter (isChacha k) ++ [aes, chacha].filter (fun c => !isChacha k c) ∧
      (prioChacha k [aes, chacha] found after).Perm [aes, chacha] ∧
      (prioChacha k [aes, chacha] found after).length = [aes, chacha].length ∧
      (∀ a₁ a₂, after = a₁ ++ a₂ → (pushWhere (isChacha k) [found] a₁).length ≤ [aes, chacha].length) ∧
      (∀ l₁ l₂, [aes, chacha] = l₁ ++ l₂ →
        (pushWhere (fun c => !isChacha k c) (pushWhere (isChacha k) [found] after) l₁).length ≤
          [aes, chacha].length) :=
  ⟨⟨rfl, rfl, rfl, rfl, rfl, rfl⟩, prioChacha_stable_partition _ _ _ _ _ rfl rfl rfl rfl rfl rfl⟩

/-- The mask tests of the loop below TLS 1.3 are those `eligible` states. -/
private theorem algorithmsOk_eq (k : Consts) (env : ChooseEnv) (s : Ssl) (c : Suite) :
    algorithmsOk k env s c =
      decide ((c.algorithmMkey &&& k.psk = 0 ∨ s.pskServerCallback = true) ∧
        c.algorithmMkey &&& (env.maskK ||| if s.srpMask &&& k.kSRP = 0 then 0 else k.kSRP) ≠ 0 ∧
        c.algorithmAuth &&& (env.maskA ||| if s.srpMask &&& k.kSRP = 0 then 0 else k.aSRP) ≠ 0 ∧
        (c.algorithmMkey &&& k.kECDHE = 0 ∨ env.checkEcTmpKey c.id = true)) := by
  have masks : chooseMaskK k env s = (env.maskK ||| if s.srpMask &&& k.kSRP = 0 then 0 else k.kSRP) ∧
      chooseMaskA k env s = (env.maskA ||| if s.srpMask &&& k.kSRP = 0 then 0 else k.aSRP) := by
    unfold chooseMaskK chooseMaskA
    by_cases srp : s.srpMask &&& k.kSRP = 0 <;> simp [srp]
  unfold algorithmsOk
  rw [masks.1, masks.2, Bool.eq_iff_iff, decide_eq_true_eq]
  by_cases psk : c.algorithmMkey &&& k.psk = 0 <;> by_cases ecdhe : c.algorithmMkey &&& k.kECDHE = 0 <;>
    cases s.pskServerCallback <;> simp [psk, ecdhe, and_assoc]

/-- The Safari test of the loop, on `alg_k` and `alg_a`, is `safariFallback`. -/
private theorem safariMatch_eq (k : Consts) (s : Ssl) (c : Suite) : safariMatch k s c = safariFallback k s c := by
  unfold safariMatch safariFallback algK algA
  rw [Bool.eq_iff_iff]
  cases s.isTls13 <;> simp [and_assoc]

private theorem preferSha256_eq (env : ChooseEnv) (s : Ssl) : preferSha256 env s = prefersSha256 env s := by
  simp [preferSha256, prefersSha256, List.all_eq_not_any_not]
  rfl

private theorem not_lt_and_not_gt (v lo hi : Int) :
    (!decide (v < lo) && !decide (v > hi)) = decide (lo ≤ v ∧ v ≤ hi) := by
  simp only [← decide_not, ← Bool.decide_and, Int.not_lt, gt_iff_lt]

private theorem versionOk_eq_eligible (k : Consts) (env : ChooseEnv) (s : Ssl) (c : Suite) :
    (versionOk env s c && (s.isTls13 || algorithmsOk k env s c)) = eligible k env s c := by
  rw [algorithmsOk_eq]
  unfold versionOk eligible
  cases s.isDtls <;> simp only [Bool.not_or, Bool.not_and, Bool.not_true, Bool.not_false,
    Bool.false_or, Bool.true_or, Bool.true_and, Bool.and_true, Bool.false_and, if_true, if_false,
    Bool.false_eq_true, not_lt_and_not_gt]

private theorem find?_beq (allow : List Suite) (c : Suite) :
    allow.find? (· == c) = if allow.contains c then some c else none := by
  induction allow with
  | nil => rfl
  | cons a rest ih =>
    by_cases h : a = c
    · subst h; simp
    · simp [List.find?_cons, h, ih, Ne.symm h]

/-- One turn of the loop: a shared suite ends the loop or is remembered, any other suite is
skipped. -/
private theorem chooseLoop_cons (k : Consts) (env : ChooseEnv) (s : Ssl) (prefer : Bool)
    (allow : List Suite) (ret : Option Suite) (c : Suite) (rest : List Suite) :
    chooseLoop k env s prefer allow ret (c :: rest) =
      if shared k env s allow c then
        if decisive k env s prefer c then some c
        else chooseLoop k env s prefer allow (ret <|> some c) rest
      else chooseLoop k env s prefer allow ret rest := by
  rw [shared, ← versionOk_eq_eligible]
  simp only [chooseLoop, find?_beq, decisive, safariMatch_eq]
  cases versionOk env s c <;> cases s.isTls13 <;> cases algorithmsOk k env s c <;>
    cases allow.contains c <;> cases env.security c <;> simp <;>
    cases safariFallback k s c <;> cases prefer <;> cases env.mdIsSha256 c.algorithm2 <;> simp

/-- The loop returns the first decisive shared suite of what is left, else the suite it
remembered, else the first shared suite of what is left. -/
private theorem chooseLoop_eq (k : Consts) (env : ChooseEnv) (s : Ssl) (prefer : Bool)
    (allow : List Suite) (ret : Option Suite) (prio : List Suite) :
    chooseLoop k env s prefer allow ret prio =
      ((prio.filter (shared k env s allow)).find? (decisive k env s prefer) <|>
        (ret <|> (prio.filter (shared k env s allow)).head?)) := by
  induction prio generalizing ret with
  | nil => cases ret <;> rfl
  | cons c rest ih =>
    rw [chooseLoop_cons]
    by_cases hc : shared k env s allow c
    · by_cases hd : decisive k env s prefer c
      · simp [hc, hd]
      · simp only [hc, hd, if_true, List.filter_cons, List.find?_cons, List.head?_cons, ih]
        cases ret <;> simp
    · simp [hc, ih, List.filter_cons]

/-- `ssl3_choose_cipher` returns `preferredSuite`, for every connection, environment and pair of
lists. -/
theorem ssl3ChooseCipher_eq_preferredSuite (k : Consts) (env : ChooseEnv) (s : Ssl)
    (clnt srvr : List Suite) :
    ssl3ChooseCipher k env s clnt srvr = preferredSuite k env s clnt srvr := by
  rw [ssl3ChooseCipher, preferredSuite, chooseLists_eq_priorityLists, chooseLoop_eq, preferSha256_eq]
  cases ((priorityLists k env s clnt srvr).1.filter
    (shared k env s (priorityLists k env s clnt srvr).2)).find? (decisive k env s (prefersSha256 env s))
    <;> rfl

/-! ### Negotiation -/

/-- A suite is in both lists of `priorityLists` exactly when both sides offer it: the lists are the two
inputs, swapped or with `srvr` reordered. -/
private theorem mem_priorityLists (k : Consts) (env : ChooseEnv) (s : Ssl) (clnt srvr : List Suite)
    (c : Suite) :
    (c ∈ (priorityLists k env s clnt srvr).1 ∧ c ∈ (priorityLists k env s clnt srvr).2) ↔
      c ∈ clnt ∧ c ∈ srvr := by
  unfold priorityLists
  split_ifs
  · exact and_comm
  · cases h : isChacha k c <;> simp [h, and_comm]
  · exact and_comm
  · exact Iff.rfl

/-- The loop's answer, the first decisive candidate or else the first candidate, is a candidate,
and there is none exactly when there are no candidates. -/
private theorem loopAnswer_spec (candidates : List Suite) (p : Suite → Bool) :
    (∀ c, (candidates.find? p <|> (none <|> candidates.head?)) = some c → c ∈ candidates) ∧
      ((candidates.find? p <|> (none <|> candidates.head?)) = none ↔ candidates = []) := by
  cases candidates with
  | nil => simp
  | cons x rest =>
    cases found : (x :: rest).find? p with
    | none => simp
    | some d => simpa using List.mem_of_find?_eq_some found

/-- `ssl3_choose_cipher` picks only a suite that both sides offer, that is eligible for the
connection and that the security callback permits, and it picks none exactly when no suite is
all of these. -/
theorem ssl3ChooseCipher_negotiates (k : Consts) (env : ChooseEnv) (s : Ssl)
    (clnt srvr : List Suite) :
    (∀ c, ssl3ChooseCipher k env s clnt srvr = some c →
      c ∈ clnt ∧ c ∈ srvr ∧ eligible k env s c = true ∧ env.security c = true) ∧
    (ssl3ChooseCipher k env s clnt srvr = none ↔
      ∀ c ∈ clnt, c ∈ srvr → eligible k env s c = true → env.security c = false) := by
  have both := mem_priorityLists k env s clnt srvr
  rw [ssl3ChooseCipher, chooseLists_eq_priorityLists, chooseLoop_eq]
  generalize priorityLists k env s clnt srvr = lists at both
  have shared_iff : ∀ c, (c ∈ lists.1 ∧ shared k env s lists.2 c = true) ↔
      (c ∈ clnt ∧ c ∈ srvr) ∧ eligible k env s c = true ∧ env.security c = true := by
    intro c
    rw [← both, shared]
    simp only [Bool.and_eq_true, List.contains, List.elem_iff]
    tauto
  obtain ⟨candidate, none_iff⟩ :=
    loopAnswer_spec (lists.1.filter (shared k env s lists.2)) (decisive k env s (preferSha256 env s))
  refine ⟨fun c chosen => ?_, ?_⟩
  · obtain ⟨⟨inClnt, inSrvr⟩, ok⟩ := (shared_iff c).mp (List.mem_filter.mp (candidate c chosen))
    exact ⟨inClnt, inSrvr, ok⟩
  · rw [none_iff, List.filter_eq_nil_iff]
    refine ⟨fun unshared c inClnt inSrvr ok => ?_, fun refused c inFirst permitted => ?_⟩
    · by_contra permitted
      have offered := (shared_iff c).mpr ⟨⟨inClnt, inSrvr⟩, ok, by simpa using permitted⟩
      exact unshared c offered.1 offered.2
    · obtain ⟨⟨inClnt, inSrvr⟩, ok, allowed⟩ := (shared_iff c).mp ⟨inFirst, permitted⟩
      simp [refused c inClnt inSrvr ok] at allowed

/-! ### The allow list -/

/-- The allow list is only searched: its order never matters. -/
private theorem shared_perm (k : Consts) (env : ChooseEnv) (s : Ssl) {allow allow' : List Suite}
    (same : allow'.Perm allow) : shared k env s allow' = shared k env s allow := by
  funext c
  have contains : allow'.contains c = allow.contains c := by
    rw [Bool.eq_iff_iff, List.contains, List.contains, List.elem_iff, List.elem_iff, same.mem_iff]
  rw [shared, shared, contains]

/-- `ssl3_choose_cipher` walks the priority list and only searches the allow list: under client
preference the order of `srvr` never changes the choice, and under Suite B, or under server
preference without ChaCha priority, the order of `clnt` never does. -/
theorem ssl3ChooseCipher_allow_order (k : Consts) (env : ChooseEnv) (s : Ssl)
    (clnt clnt' srvr srvr' : List Suite) (sameClnt : clnt'.Perm clnt) (sameSrvr : srvr'.Perm srvr) :
    (env.suiteb = false → s.options.cipherServerPreference = false →
      ssl3ChooseCipher k env s clnt srvr' = ssl3ChooseCipher k env s clnt srvr) ∧
    (env.suiteb = true ∨
        (s.options.cipherServerPreference = true ∧ s.options.prioritizeChacha = false) →
      ssl3ChooseCipher k env s clnt' srvr = ssl3ChooseCipher k env s clnt srvr) := by
  simp only [ssl3ChooseCipher, chooseLists_eq_priorityLists, chooseLoop_eq]
  refine ⟨fun noSuiteb clientPref => ?_, fun serverSide => ?_⟩
  · simp only [priorityLists, noSuiteb, clientPref, Bool.false_eq_true, if_false,
      shared_perm k env s sameSrvr]
  · have lists : ∀ allow, priorityLists k env s allow srvr = (srvr, allow) := by
      intro allow
      rcases serverSide with suiteb | ⟨serverPref, noChacha⟩
      · simp [priorityLists, suiteb]
      · simp [priorityLists, serverPref, noChacha]
    simp only [lists, shared_perm k env s sameClnt]

theorem ssl3ChooseCipher_allow_order_swapped :
    let chacha : Suite := ⟨0x03001303, 0, 0, 0x80000, 0x304, 0x304, 0, 0, 0, 256⟩
    let aes : Suite := ⟨0x03001301, 0, 0, 0x40000, 0x304, 0x304, 0, 0, 0, 128⟩
    let env : ChooseEnv := ⟨false, true, [], 0, 0, fun _ => true, fun _ => true, fun _ => true, id⟩
    let s : Ssl := { ctx := SslCtx.zeroKeys, version := 0x304, isTls13 := true }
    let s' : Ssl := { s with options := { cipherServerPreference := true } }
    [aes, chacha].Perm [chacha, aes] ∧
      ssl3ChooseCipher Consts.release env s [chacha, aes] [chacha, aes] =
        ssl3ChooseCipher Consts.release env s [chacha, aes] [aes, chacha] ∧
      ssl3ChooseCipher Consts.release env s' [aes, chacha] [aes, chacha] =
        ssl3ChooseCipher Consts.release env s' [chacha, aes] [aes, chacha] := by
  intro chacha aes env s s'
  have swapped : [aes, chacha].Perm [chacha, aes] := List.Perm.swap _ _ _
  exact ⟨swapped,
    (ssl3ChooseCipher_allow_order Consts.release env s _ _ _ _ swapped swapped.symm).1 rfl rfl,
    (ssl3ChooseCipher_allow_order Consts.release env s' _ _ _ _ swapped swapped.symm).2
      (.inr ⟨rfl, rfl⟩)⟩

/-- With server preference and `SSL_OP_PRIORITIZE_CHACHA`, no Suite B, a client whose first suite
is a ChaCha20-Poly1305 one and a successful allocation of `prio_chacha`, `ssl3_choose_cipher` picks
a ChaCha20-Poly1305 suite whenever the two sides share one at which the loop stops. -/
theorem ssl3ChooseCipher_prioritizes_chacha (k : Consts) (env : ChooseEnv) (s : Ssl)
    (clnt srvr : List Suite) (noSuiteb : env.suiteb = false)
    (serverPref : s.options.cipherServerPreference = true)
    (prioritize : s.options.prioritizeChacha = true) (reserved : env.reserveOk = true)
    (clientFirst : clnt.head?.map (isChacha k) = some true) (c : Suite) (chacha : isChacha k c = true)
    (inClnt : c ∈ clnt) (inSrvr : c ∈ srvr) (ok : eligible k env s c = true)
    (permitted : env.security c = true) (stops : decisive k env s (preferSha256 env s) c = true) :
    ∃ d, ssl3ChooseCipher k env s clnt srvr = some d ∧ isChacha k d = true := by
  have anyChacha : srvr.any (isChacha k) = true := List.any_eq_true.mpr ⟨c, inSrvr, chacha⟩
  have lists : priorityLists k env s clnt srvr =
      (srvr.filter (isChacha k) ++ srvr.filter (fun c => !isChacha k c), clnt) := by
    simp [priorityLists, noSuiteb, serverPref, prioritize, reserved, clientFirst, anyChacha]
  have candidate : c ∈ (srvr.filter (isChacha k)).filter (shared k env s clnt) := by
    simp [shared, inSrvr, chacha, ok, permitted, inClnt]
  rw [ssl3ChooseCipher, chooseLists_eq_priorityLists, chooseLoop_eq, lists, List.filter_append,
    List.find?_append]
  cases found : ((srvr.filter (isChacha k)).filter (shared k env s clnt)).find?
      (decisive k env s (preferSha256 env s)) with
  | none => exact absurd stops (by simpa using List.find?_eq_none.mp found c candidate)
  | some d =>
    refine ⟨d, by simp [found], ?_⟩
    exact (List.mem_filter.mp (List.mem_filter.mp (List.mem_of_find?_eq_some found)).1).2

theorem ssl3ChooseCipher_prioritizes_chacha_tls13 :
    let chacha : Suite := ⟨0x03001303, 0, 0, 0x80000, 0x304, 0x304, 0, 0, 0, 256⟩
    let aes : Suite := ⟨0x03001301, 0, 0, 0x40000, 0x304, 0x304, 0, 0, 0, 128⟩
    let env : ChooseEnv := ⟨false, true, [], 0, 0, fun _ => true, fun _ => true, fun _ => true, id⟩
    let s : Ssl :=
      { ctx := SslCtx.zeroKeys
        version := 0x304
        isTls13 := true
        options := { cipherServerPreference := true, prioritizeChacha := true } }
    let k := Consts.release
    (env.suiteb = false ∧ s.options.cipherServerPreference = true ∧ s.options.prioritizeChacha = true ∧
      env.reserveOk = true ∧ [chacha, aes].head?.map (isChacha k) = some true ∧
      isChacha k chacha = true ∧ chacha ∈ [chacha, aes] ∧ chacha ∈ [aes, chacha] ∧
      eligible k env s chacha = true ∧ env.security chacha = true ∧
      decisive k env s (preferSha256 env s) chacha = true) ∧
    ∃ d, ssl3ChooseCipher k env s [chacha, aes] [aes, chacha] = some d ∧ isChacha k d = true := by
  intro chacha aes env s k
  have clientFirst : [chacha, aes].head?.map (isChacha k) = some true := by decide
  have isChachaC : isChacha k chacha = true := by decide
  have stops : decisive k env s (preferSha256 env s) chacha = true := by
    simp [decisive, safariFallback, s]
  exact ⟨⟨rfl, rfl, rfl, rfl, clientFirst, isChachaC, by simp, by simp, rfl, rfl, stops⟩,
    ssl3ChooseCipher_prioritizes_chacha k env s _ _ rfl rfl rfl rfl clientFirst chacha isChachaC
      (by simp) (by simp) rfl rfl stops⟩

end S3Lib.ChooseCipher
