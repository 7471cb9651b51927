import S3Lib.Model.Io
import S3Lib.Model.Lifecycle
import S3Lib.Model.Ctrl

/-! # Renegotiation requests and counters over whole runs

A run interleaves, in any order, the entry points that touch the renegotiation flag and counters:
`ssl3_renegotiate`, `ssl3_renegotiate_check`, `ssl3_read`, `ssl3_peek`, `ssl3_write`, the three
counter commands of `ssl3_ctrl`, and `ssl3_clear`. Each operation leaves marks: a request made
while a handshake function is set, a renegotiation started (an `ssl3_renegotiate_check` that
returned `1`, also one called from a read or a write), a clear, a reset of the per-connection
counter. `Inv` relates the counters and the flag to the marks so far; every operation keeps it.
-/

namespace S3Lib.Renegotiation

open S3Lib

/-- The operations of a run. -/
inductive RenegOp where
  | renegotiate
  | check (rl : RecordStatus) (initok : Bool)
  | read (rl : RecordStatus) (out : ReadOutcome)
  | peek (rl : RecordStatus) (out : ReadOutcome)
  | write (rl : RecordStatus) (written : Int)
  | getNum
  | clearNum
  | getTotal
  | clear (wbioOk : Bool)

/-- What a run shows of its operations: an `ssl3_renegotiate` made while a handshake function was
set, an `ssl3_renegotiate_check` that returned `1`, an `ssl3_clear`, and an
`SSL_CTRL_CLEAR_NUM_RENEGOTIATIONS` with the value it returned. -/
inductive Mark where
  | request
  | started
  | cleared
  | numCleared (ret : Int)
deriving DecidableEq

/-- One `started` mark per renegotiation a call started. -/
def startedMarks (events : List Event) : List Mark :=
  (events.filter (· == .statemSetRenegotiate)).map fun _ => .started

/-- The state and marks after one operation. -/
def renegStep (k : Consts) (lib : SslLib) (nids : NidMap) (s : Ssl) : RenegOp → Ssl × List Mark
  | .renegotiate => ((ssl3Renegotiate s).1, if s.handshakeFunc then [.request] else [])
  | .check rl initok =>
    let r := ssl3RenegotiateCheck rl s initok
    (r.1, if r.2.1 = 1 then [.started] else [])
  | .read rl out => ((ssl3Read rl out s).1, startedMarks (ssl3Read rl out s).2.2)
  | .peek rl out => ((ssl3Peek rl out s).1, startedMarks (ssl3Peek rl out s).2.2)
  | .write rl written => ((ssl3Write rl written s).1, startedMarks (ssl3Write rl written s).2.2)
  | .getNum => (((ssl3Ctrl k lib nids s .getNumRenegotiations).getD (s, 0, .nothing)).1, [])
  | .clearNum =>
    let r := (ssl3Ctrl k lib nids s .clearNumRenegotiations).getD (s, 0, .nothing)
    (r.1, [.numCleared r.2.1])
  | .getTotal => (((ssl3Ctrl k lib nids s .getTotalRenegotiations).getD (s, 0, .nothing)).1, [])
  | .clear wbioOk => ((ssl3Clear k wbioOk s).1, [.cleared])

/-- The state and marks after a run. -/
def renegRun (k : Consts) (lib : SslLib) (nids : NidMap) : Ssl → List RenegOp → Ssl × List Mark
  | s, [] => (s, [])
  | s, op :: ops =>
    let r := renegStep k lib nids s op
    let rest := renegRun k lib nids r.1 ops
    (rest.1, r.2 ++ rest.2)

/-- A clear. -/
def isClear : Mark → Bool
  | .cleared => true
  | _ => false

/-- A clear or a reset of the per-connection counter. -/
def isReset : Mark → Bool
  | .cleared => true
  | .numCleared _ => true
  | _ => false

/-- The marks after the last one that `reset` picks out, all of them when there is none. -/
def sinceLast (reset : Mark → Bool) (marks : List Mark) : List Mark :=
  (marks.reverse.takeWhile fun m => !reset m).reverse

/-- `q` holds of every mark together with the marks before it. -/
def EachAfter (q : List Mark → Mark → Prop) (marks : List Mark) : Prop :=
  ∀ i (h : i < marks.length), q (marks.take i) marks[i]

/-- Before each started renegotiation there were more requests than started renegotiations. -/
def startedAfterRequest (pre : List Mark) (m : Mark) : Prop :=
  m = .started → pre.count .started < pre.count .request

/-- A reset of the per-connection counter returns the renegotiations since the previous one. -/
def returnsReset (pre : List Mark) (m : Mark) : Prop :=
  ∀ n, m = .numCleared n → n = ((sinceLast isReset pre).count .started : Int)

/-- The invariant of a run with marks `marks` that reached `s`. -/
structure Inv (marks : List Mark) (s : Ssl) : Prop where
  total : s.s3.totalRenegotiations = (sinceLast isClear marks).count .started
  num : s.s3.numRenegotiations = (sinceLast isReset marks).count .started
  flag : marks.count .started + (if s.s3.renegotiate then 1 else 0) ≤ marks.count .request
  consumed : EachAfter startedAfterRequest marks
  resets : EachAfter returnsReset marks

private theorem sinceLast_append_singleton (reset : Mark → Bool) (marks : List Mark) (m : Mark) :
    sinceLast reset (marks ++ [m]) = if reset m then [] else sinceLast reset marks ++ [m] := by
  cases h : reset m <;> simp [sinceLast, h]

private theorem eachAfter_append_singleton (q : List Mark → Mark → Prop) (marks : List Mark) (m : Mark) :
    EachAfter q (marks ++ [m]) ↔ EachAfter q marks ∧ q marks m := by
  constructor
  · intro h
    refine ⟨fun i hi => ?_, ?_⟩
    · have := h i (by simp; omega)
      rwa [List.take_append_of_le_length (by omega), List.getElem_append_left hi] at this
    · simpa using h marks.length (by simp)
  · rintro ⟨h, hm⟩ i hi
    simp only [List.length_append, List.length_singleton] at hi
    rcases Nat.lt_or_ge i marks.length with lt | ge
    · rw [List.take_append_of_le_length (by omega), List.getElem_append_left lt]
      exact h i lt
    · obtain rfl : i = marks.length := by omega
      simpa using hm

/-- Later marks raise the count of a mark that stands before them. -/
private theorem count_take_lt {marks : List Mark} {i j : Nat} {m : Mark} (lt : i < j)
    (at_i : marks[i]? = some m) : (marks.take i).count m < (marks.take j).count m := by
  have step : (marks.take (i + 1)).count m = (marks.take i).count m + 1 := by
    simp [List.take_succ, at_i]
  have le := ((List.take_prefix_take_left marks (show i + 1 ≤ j by omega)).sublist).count_le m
  omega

/-- Below the `c+1`-th occurrence of `m` among the first `i` marks there is one at a position `j`
with exactly `c` before it. -/
private theorem exists_occurrence (marks : List Mark) (m : Mark) (c : Nat) :
    ∀ i, c < (marks.take i).count m → ∃ j < i, marks[j]? = some m ∧ (marks.take j).count m = c
  | 0, h => by simp at h
  | i + 1, h => by
    rw [List.take_succ] at h
    by_cases below : c < (marks.take i).count m
    · obtain ⟨j, lt, hj⟩ := exists_occurrence marks m c i below
      exact ⟨j, by omega, hj⟩
    · cases hi : marks[i]? with
      | none => simp [hi] at h; omega
      | some x =>
        by_cases hx : x = m
        · subst hx
          simp [hi] at h
          exact ⟨i, by omega, hi, by omega⟩
        · simp [hi, List.count_singleton, Ne.symm hx] at h
          omega

/-- Each started renegotiation consumes its own earlier request: `req` sends a started
renegotiation to the request it consumes, and no request is consumed twice. -/
def Consumes (marks : List Mark) : Prop :=
  ∃ req : Nat → Nat,
    (∀ i, marks[i]? = some .started → req i < i ∧ marks[req i]? = some .request) ∧
    ∀ i j, marks[i]? = some .started → marks[j]? = some .started → req i = req j → i = j

/-- Counting requests before every started renegotiation gives the matching: the `n`-th started
renegotiation consumes the `n`-th request. -/
private theorem consumes_of_eachAfter {marks : List Mark} (h : EachAfter startedAfterRequest marks) :
    Consumes marks := by
  have pick : ∀ i, marks[i]? = some .started → ∃ j < i, marks[j]? = some .request ∧
      (marks.take j).count .request = (marks.take i).count .started := by
    intro i hi
    obtain ⟨hlt, hget⟩ := List.getElem?_eq_some_iff.mp hi
    exact exists_occurrence marks .request _ i (h i hlt hget)
  refine ⟨fun i => if hi : marks[i]? = some .started then Classical.choose (pick i hi) else 0,
    fun i hi => ?_, fun i j hi hj same => ?_⟩
  · have := Classical.choose_spec (pick i hi)
    simp only [hi, dif_pos]
    exact ⟨this.1, this.2.1⟩
  · have spec_i := (Classical.choose_spec (pick i hi)).2.2
    have spec_j := (Classical.choose_spec (pick j hj)).2.2
    simp only [hi, hj, dif_pos] at same
    rw [same] at spec_i
    rcases Nat.lt_trichotomy i j with lt | eq | gt
    · have := count_take_lt lt hi; omega
    · exact eq
    · have := count_take_lt gt hj; omega

/-- The renegotiation flag and the two counters. -/
def counters (s : Ssl) : Bool × Nat × Nat :=
  (s.s3.renegotiate, s.s3.numRenegotiations, s.s3.totalRenegotiations)

/-- The invariant reads a state only through its flag and counters. -/
private theorem Inv.of_counters {marks : List Mark} {s s' : Ssl} (h : Inv marks s)
    (same : counters s' = counters s) : Inv marks s' := by
  simp only [counters, Prod.mk.injEq] at same
  obtain ⟨hr, hn, ht⟩ := same
  exact ⟨ht ▸ h.total, hn ▸ h.num, hr ▸ h.flag, h.consumed, h.resets⟩

/-- `ssl3_renegotiate_check` either starts the requested renegotiation or changes nothing. -/
private theorem ssl3RenegotiateCheck_cases (rl : RecordStatus) (s : Ssl) (initok : Bool) :
    (s.s3.renegotiate = true ∧ ssl3RenegotiateCheck rl s initok =
      ({ s with
          s3 := { s.s3 with
            renegotiate := false
            numRenegotiations := s.s3.numRenegotiations + 1
            totalRenegotiations := s.s3.totalRenegotiations + 1 } },
        1, [.statemSetRenegotiate])) ∨
    ssl3RenegotiateCheck rl s initok = (s, 0, []) := by
  unfold ssl3RenegotiateCheck
  split_ifs with h
  · exact .inl ⟨by simp_all, rfl⟩
  · exact .inr rfl

/-- A check returns `1` exactly when it tells the state machine to renegotiate. -/
private theorem startedMarks_ssl3RenegotiateCheck (rl : RecordStatus) (s : Ssl) (initok : Bool) :
    startedMarks (ssl3RenegotiateCheck rl s initok).2.2 =
      if (ssl3RenegotiateCheck rl s initok).2.1 = 1 then [.started] else [] := by
  rcases ssl3RenegotiateCheck_cases rl s initok with ⟨_, he⟩ | he <;> simp [he, startedMarks]

/-- The opportunistic check of the I/O entry points is `ssl3_renegotiate_check(s, 0)`. -/
private theorem checkPendingRenegotiation_eq (rl : RecordStatus) (s : Ssl) :
    checkPendingRenegotiation rl s =
      ((ssl3RenegotiateCheck rl s false).1, (ssl3RenegotiateCheck rl s false).2.2) := by
  unfold checkPendingRenegotiation
  split_ifs with h
  · rfl
  · simp [ssl3RenegotiateCheck, h]

/-- A read or a peek touches the flag and counters only through its opportunistic check. -/
private theorem ssl3ReadInternal_counters (rl : RecordStatus) (out : ReadOutcome) (s : Ssl) (peek : Bool) :
    counters (ssl3ReadInternal rl out s peek).1 = counters (ssl3RenegotiateCheck rl s false).1 ∧
      startedMarks (ssl3ReadInternal rl out s peek).2.2 =
        startedMarks (ssl3RenegotiateCheck rl s false).2.2 := by
  unfold ssl3ReadInternal
  simp only [checkPendingRenegotiation_eq]
  split_ifs <;> simp [counters, startedMarks]

/-- A write touches the flag and counters only through its opportunistic check. -/
private theorem ssl3Write_counters (rl : RecordStatus) (written : Int) (s : Ssl) :
    counters (ssl3Write rl written s).1 = counters (ssl3RenegotiateCheck rl s false).1 ∧
      startedMarks (ssl3Write rl written s).2.2 =
        startedMarks (ssl3RenegotiateCheck rl s false).2.2 := by
  simp [ssl3Write, checkPendingRenegotiation_eq, counters, startedMarks]

section Step

variable {marks : List Mark} {s : Ssl}

/-- A check keeps the invariant. -/
private theorem Inv.check (h : Inv marks s) (rl : RecordStatus) (initok : Bool) :
    Inv (marks ++ startedMarks (ssl3RenegotiateCheck rl s initok).2.2)
      (ssl3RenegotiateCheck rl s initok).1 := by
  rcases ssl3RenegotiateCheck_cases rl s initok with ⟨hr, he⟩ | he <;> rw [he]
  · have flag := h.flag
    simp only [hr, if_true] at flag
    refine ⟨?_, ?_, ?_, ?_, ?_⟩ <;>
      simp [startedMarks, sinceLast_append_singleton, isClear, isReset, eachAfter_append_singleton,
        startedAfterRequest, returnsReset, h.total, h.num, h.consumed, h.resets] <;> omega
  · simpa [startedMarks] using h

/-- A request keeps the invariant. -/
private theorem Inv.renegotiate (h : Inv marks s) :
    Inv (marks ++ if s.handshakeFunc then [.request] else []) (ssl3Renegotiate s).1 := by
  unfold ssl3Renegotiate
  cases hf : s.handshakeFunc
  · simpa using h
  · have flag := h.flag
    refine ⟨?_, ?_, ?_, ?_, ?_⟩ <;>
      simp [sinceLast_append_singleton, isClear, isReset, eachAfter_append_singleton,
        startedAfterRequest, returnsReset, h.total, h.num, h.consumed, h.resets]
    split at flag <;> omega

/-- A reset of the per-connection counter keeps the invariant. -/
private theorem Inv.clearNum (h : Inv marks s) :
    Inv (marks ++ [.numCleared s.s3.numRenegotiations])
      { s with s3 := { s.s3 with numRenegotiations := 0 } } := by
  refine ⟨?_, ?_, ?_, ?_, ?_⟩ <;>
    simp [sinceLast_append_singleton, isClear, isReset, eachAfter_append_singleton,
      startedAfterRequest, returnsReset, h.total, h.num, h.consumed, h.resets, h.flag]

/-- A clear keeps the invariant. -/
private theorem Inv.clear (h : Inv marks s) (k : Consts) (wbioOk : Bool) :
    Inv (marks ++ [.cleared]) (ssl3Clear k wbioOk s).1 := by
  have flag := h.flag
  refine ⟨?_, ?_, ?_, ?_, ?_⟩ <;>
    simp [sinceLast_append_singleton, isClear, isReset, eachAfter_append_singleton,
      startedAfterRequest, returnsReset, h.consumed, h.resets]
  split at flag <;> omega

/-- Every operation keeps the invariant. -/
private theorem Inv.step (h : Inv marks s) (k : Consts) (lib : SslLib) (nids : NidMap) (op : RenegOp) :
    Inv (marks ++ (renegStep k lib nids s op).2) (renegStep k lib nids s op).1 := by
  cases op with
  | renegotiate => exact h.renegotiate
  | check rl initok =>
    simpa only [renegStep, ← startedMarks_ssl3RenegotiateCheck] using h.check rl initok
  | read rl out =>
    obtain ⟨hc, hm⟩ := ssl3ReadInternal_counters rl out s false
    exact (hm ▸ h.check rl false).of_counters hc
  | peek rl out =>
    obtain ⟨hc, hm⟩ := ssl3ReadInternal_counters rl out s true
    exact (hm ▸ h.check rl false).of_counters hc
  | write rl written =>
    obtain ⟨hc, hm⟩ := ssl3Write_counters rl written s
    exact (hm ▸ h.check rl false).of_counters hc
  | getNum => exact (List.append_nil marks).symm ▸ h
  | clearNum => exact h.clearNum
  | getTotal => exact (List.append_nil marks).symm ▸ h
  | clear wbioOk => exact h.clear k wbioOk

/-- Every run keeps the invariant. -/
private theorem Inv.run (k : Consts) (lib : SslLib) (nids : NidMap) (ops : List RenegOp) :
    ∀ {marks : List Mark} {s : Ssl}, Inv marks s →
      Inv (marks ++ (renegRun k lib nids s ops).2) (renegRun k lib nids s ops).1 := by
  induction ops with
  | nil => intro marks s h; simpa [renegRun] using h
  | cons op ops ih =>
    intro marks s h
    simpa [renegRun] using ih (h.step k lib nids op)

end Step

/-- A connection just cleared satisfies the invariant with no marks. -/
private theorem inv_ssl3Clear (k : Consts) (wbioOk : Bool) (s : Ssl) : Inv [] (ssl3Clear k wbioOk s).1 := by
  refine ⟨?_, ?_, ?_, ?_, ?_⟩ <;> simp [sinceLast, EachAfter]

/-- What a run promises of the counters after it and of its marks: the lifetime counter counts the
renegotiations started since the last clear, the per-connection counter those since the last
clear or counter reset, so it is at most the lifetime one; every counter reset returns the value
it resets; and every started renegotiation consumes its own earlier request. -/
structure RunSound (marks : List Mark) (s : Ssl) : Prop where
  total : s.s3.totalRenegotiations = (sinceLast isClear marks).count .started
  num : s.s3.numRenegotiations = (sinceLast isReset marks).count .started
  num_le_total : s.s3.numRenegotiations ≤ s.s3.totalRenegotiations
  resets : EachAfter returnsReset marks
  consumes : Consumes marks

/-- The counts since the last clear include those since the last clear or reset. -/
private theorem count_sinceLast_reset_le (marks : List Mark) :
    (sinceLast isReset marks).count .started ≤ (sinceLast isClear marks).count .started := by
  induction marks using List.reverseRecOn with
  | nil => simp [sinceLast]
  | append_singleton marks m ih =>
    rw [sinceLast_append_singleton, sinceLast_append_singleton]
    cases m <;> simp [isReset, isClear] <;> omega

/-- Any run of the renegotiation entry points from a cleared connection keeps its counters
equal to the renegotiations started since the last clear (and reset), and starts each
renegotiation from a request of its own. -/
theorem renegRun_sound (k : Consts) (lib : SslLib) (nids : NidMap) (wbioOk : Bool) (s : Ssl)
    (ops : List RenegOp) :
    RunSound (renegRun k lib nids (ssl3Clear k wbioOk s).1 ops).2
      (renegRun k lib nids (ssl3Clear k wbioOk s).1 ops).1 := by
  have h := Inv.run k lib nids ops (inv_ssl3Clear k wbioOk s)
  rw [List.nil_append] at h
  exact ⟨h.total, h.num, h.num ▸ h.total ▸ count_sinceLast_reset_le _, h.resets,
    consumes_of_eachAfter h.consumed⟩

/-! ### A pending request is served -/

/-- A call that finds the record layer idle as `ssl3_renegotiate_check` tests it: nothing pending
to read or to write, and no handshake in progress unless `initok`, which the I/O entry points pass
as `0`. -/
def findsIdle : RenegOp → Bool
  | .check rl initok => !rl.readPending && !rl.writePending && (initok || !rl.inInit)
  | .read rl _ => !rl.readPending && !rl.writePending && !rl.inInit
  | .peek rl _ => !rl.readPending && !rl.writePending && !rl.inInit
  | .write rl _ => !rl.readPending && !rl.writePending && !rl.inInit
  | _ => false

/-- A check with a request pending either starts the renegotiation or leaves the request pending,
and it starts it when it finds the record layer idle. -/
private theorem ssl3RenegotiateCheck_pending (rl : RecordStatus) {s : Ssl} (initok : Bool)
    (pending : s.s3.renegotiate = true) :
    ((ssl3RenegotiateCheck rl s initok).2.1 = 1 ∨
        (ssl3RenegotiateCheck rl s initok).1.s3.renegotiate = true) ∧
      ((!rl.readPending && !rl.writePending && (initok || !rl.inInit)) = true →
        (ssl3RenegotiateCheck rl s initok).2.1 = 1) := by
  unfold ssl3RenegotiateCheck
  refine ⟨?_, fun idle => by simp only [pending, Bool.true_and, idle, if_true]⟩
  split_ifs
  · exact .inl rfl
  · exact .inr pending

section Pending

variable (k : Consts) (lib : SslLib) (nids : NidMap) {s : Ssl}

/-- With a request pending, every operation but a clear starts a renegotiation or leaves the
request pending, and one that finds the record layer idle starts it. -/
private theorem renegStep_pending (pending : s.s3.renegotiate = true) (op : RenegOp)
    (notClear : ∀ wbioOk, op ≠ .clear wbioOk) :
    (Mark.started ∈ (renegStep k lib nids s op).2 ∨
        (renegStep k lib nids s op).1.s3.renegotiate = true) ∧
      (findsIdle op = true → Mark.started ∈ (renegStep k lib nids s op).2) := by
  have io : ∀ {s' : Ssl} {events : List Event} (rl : RecordStatus),
      counters s' = counters (ssl3RenegotiateCheck rl s false).1 ∧
        startedMarks events = startedMarks (ssl3RenegotiateCheck rl s false).2.2 →
        (Mark.started ∈ startedMarks events ∨ s'.s3.renegotiate = true) ∧
          ((!rl.readPending && !rl.writePending && !rl.inInit) = true →
            Mark.started ∈ startedMarks events) := by
    rintro s' events rl ⟨same, marks⟩
    simp only [counters, Prod.mk.injEq] at same
    rw [marks, startedMarks_ssl3RenegotiateCheck, same.1]
    obtain ⟨progress, serves⟩ := ssl3RenegotiateCheck_pending rl false pending
    refine ⟨progress.imp (fun started => by simp [started]) id, fun idle => ?_⟩
    simp [serves (by simpa using idle)]
  cases op with
  | renegotiate =>
    refine ⟨.inr ?_, nofun⟩
    show (ssl3Renegotiate s).1.s3.renegotiate = true
    unfold ssl3Renegotiate
    split <;> [exact pending; rfl]
  | check rl initok =>
    obtain ⟨progress, serves⟩ := ssl3RenegotiateCheck_pending rl initok pending
    refine ⟨progress.imp (fun started => by simp [renegStep, started]) id, fun idle => ?_⟩
    simp [renegStep, serves idle]
  | read rl out => exact io rl (ssl3ReadInternal_counters rl out s false)
  | peek rl out => exact io rl (ssl3ReadInternal_counters rl out s true)
  | write rl written => exact io rl (ssl3Write_counters rl written s)
  | getNum => exact ⟨.inr pending, nofun⟩
  | clearNum => exact ⟨.inr pending, nofun⟩
  | getTotal => exact ⟨.inr pending, nofun⟩
  | clear wbioOk => exact absurd rfl (notClear wbioOk)

end Pending

/-- A requested renegotiation is not lost: from a connection with a request pending, a run whose
operations up to a call that finds the record layer idle include no `ssl3_clear` starts a
renegotiation by that call. -/
theorem renegRun_serves_request (k : Consts) (lib : SslLib) (nids : NidMap) (s : Ssl)
    (pending : s.s3.renegotiate = true) (pre : List RenegOp) (op : RenegOp)
    (noClear : ∀ wbioOk, RenegOp.clear wbioOk ∉ pre) (idle : findsIdle op = true) :
    Mark.started ∈ (renegRun k lib nids s (pre ++ [op])).2 := by
  induction pre generalizing s with
  | nil =>
    have opNotClear : ∀ wbioOk, op ≠ .clear wbioOk := by
      rintro wbioOk rfl
      exact absurd idle (by simp [findsIdle])
    simpa [renegRun] using (renegStep_pending k lib nids pending op opNotClear).2 idle
  | cons p pre ih =>
    have notClear : ∀ wbioOk, p ≠ .clear wbioOk :=
      fun wbioOk same => noClear wbioOk (same ▸ List.mem_cons_self _ _)
    simp only [List.cons_append, renegRun, List.mem_append]
    exact ((renegStep_pending k lib nids pending p notClear).1).imp id fun still =>
      ih _ still fun wbioOk mem => noClear wbioOk (List.mem_cons_of_mem _ mem)

theorem renegRun_serves_request_after_busy_read :
    let s : Ssl := { ctx := SslCtx.zeroKeys, handshakeFunc := true, s3 := { renegotiate := true } }
    let pre := [RenegOp.read ⟨true, false, false⟩ ⟨1, false, false, 0, false⟩, .getNum]
    let op := RenegOp.write ⟨false, false, false⟩ 5
    (s.s3.renegotiate = true ∧ (∀ wbioOk, RenegOp.clear wbioOk ∉ pre) ∧ findsIdle op = true) ∧
      Mark.started ∈ (renegRun Consts.release ⟨true, fun _ s => (s, 0), fun _ _ => 0⟩
        ⟨fun _ => 0, fun _ => 0, 0x1000000, fun _ => false⟩ s (pre ++ [op])).2 :=
  ⟨⟨rfl, by simp, rfl⟩, renegRun_serves_request _ _ _ _ rfl _ _ (by simp) rfl⟩

end S3Lib.Renegotiation
