import S3Lib.Model.Ctrl

/-! # Group values of `ssl3_ctrl` and `SSL_group_to_name`

`SSL_CTRL_GET_GROUPS`, `SSL_CTRL_GET_SHARED_GROUP` and `SSL_CTRL_GET_NEGOTIATED_GROUP` encode a
group id as a NID, with `TLSEXT_nid_unknown | id` for an id the built-in table lacks, and
`SSL_group_to_name` decodes it again. Under the laws of the table (`LawfulNids`) the decoding
undoes the encoding, so the name is the context's name of the very group id, or `NULL`.
-/

namespace S3Lib.GroupNames

open S3Lib

/-- What `tls1_group_id2nid(id, 1)` and `tls1_nid2group_id` promise: they are inverse on the
built-in table, an id outside it is `TLSEXT_nid_unknown | id` (`NID_undef` for `0`, which maps
back to `0`), and no built-in NID has the `TLSEXT_nid_unknown` bit. -/
structure LawfulNids (nids : NidMap) : Prop where
  nidUnknown_eq : nids.nidUnknown = 0x1000000
  nid2groupId_groupId2nid : ∀ id, nids.builtin id = true → nids.nid2groupId (nids.groupId2nid id) = id
  groupId2nid_unknown : ∀ id, nids.builtin id = false → id ≠ 0 →
    nids.groupId2nid id = nids.nidUnknown ||| id.toNat
  builtin_zero : nids.builtin 0 = false
  groupId2nid_zero : nids.groupId2nid 0 = 0
  nid2groupId_zero : nids.nid2groupId 0 = 0
  builtin_no_unknown : ∀ id, nids.builtin id = true → nids.groupId2nid id &&& nids.nidUnknown = 0

/-- The `TLSEXT_nid_unknown` bit survives in `TLSEXT_nid_unknown | id`. -/
private theorem unknown_or_and_unknown (n : Nat) : (0x1000000 ||| n) &&& 0x1000000 = 0x1000000 := by
  apply Nat.eq_of_testBit_eq
  intro i
  rw [show (0x1000000 : Nat) = 2 ^ 24 from rfl, Nat.testBit_and, Nat.testBit_or, Nat.testBit_two_pow]
  by_cases h : 24 = i <;> simp [h]

/-- The low 16 bits of `TLSEXT_nid_unknown | id` are `id`. -/
private theorem unknown_or_and_low (n : Nat) (short : n < 2 ^ 16) : (0x1000000 ||| n) &&& 0xFFFF = n := by
  apply Nat.eq_of_testBit_eq
  intro i
  rw [show (0x1000000 : Nat) = 2 ^ 24 from rfl, show (0xFFFF : Nat) = 2 ^ 16 - 1 from rfl,
    Nat.testBit_and, Nat.testBit_or, Nat.testBit_two_pow, Nat.testBit_two_pow_sub_one]
  by_cases low : i < 16
  · simp [low, show 24 ≠ i by omega]
  · have above : n < 2 ^ i := Nat.lt_of_lt_of_le short (Nat.pow_le_pow_right (by omega) (by omega))
    simp [low, Nat.testBit_lt_two_pow above]

section Lawful

variable {nids : NidMap} (lawful : LawfulNids nids) (s : Ssl)

include lawful

/-- `SSL_group_to_name` of `TLSEXT_nid_unknown | id` looks up `id` itself. -/
private theorem sslGroupToName_unknown (id : UInt16) :
    sslGroupToName nids s (nids.nidUnknown ||| id.toNat) =
      (tls1GroupIdLookup s.ctx id).map (·.tlsname) := by
  have low := unknown_or_and_low id.toNat id.toNat_lt_size
  have bit := unknown_or_and_unknown id.toNat
  have back : UInt16.ofNat id.toNat = id := UInt16.toNat.inj (UInt16.toNat_ofNat_of_lt id.toNat_lt_size)
  simp [sslGroupToName, lawful.nidUnknown_eq, low, bit, back]

/-- `SSL_group_to_name` undoes `tls1_group_id2nid(id, 1)`. -/
private theorem sslGroupToName_groupId2nid (id : UInt16) :
    sslGroupToName nids s (nids.groupId2nid id) = (tls1GroupIdLookup s.ctx id).map (·.tlsname) := by
  cases builtin : nids.builtin id
  · by_cases zero : id = 0
    · subst zero
      simp [sslGroupToName, lawful.groupId2nid_zero, lawful.nid2groupId_zero]
    · rw [lawful.groupId2nid_unknown id builtin zero]
      exact sslGroupToName_unknown lawful s id
  · simp [sslGroupToName, lawful.builtin_no_unknown id builtin, lawful.nid2groupId_groupId2nid id builtin]

/-- `SSL_group_to_name` of a value of `SSL_CTRL_GET_GROUPS` looks up that group id. -/
private theorem sslGroupToName_getGroupsEntry (id : UInt16) :
    sslGroupToName nids s (getGroupsEntry nids s.ctx id) =
      (tls1GroupIdLookup s.ctx id).map (·.tlsname) := by
  unfold getGroupsEntry
  cases found : tls1GroupIdLookup s.ctx id with
  | none => rw [sslGroupToName_unknown lawful s id, found]
  | some cinf =>
    have same : cinf.groupId = id := by
      simpa using List.find?_some found
    show sslGroupToName nids s (nids.groupId2nid cinf.groupId) = _
    rw [same, sslGroupToName_groupId2nid lawful s id, found]

end Lawful

/-- The group id that `SSL_CTRL_GET_NEGOTIATED_GROUP` encodes. -/
def negotiatedGroupId (s : Ssl) (session : Session) : UInt16 :=
  if s.isTls13 && s.s3.didKex then s.s3.groupId else session.kexGroup

/-- What `SSL_group_to_name` gives for the group values of `ssl3_ctrl` on `s`: the context's name
of the group id each encodes, or `NULL` when the context does not know it. The `i`-th value of
`SSL_CTRL_GET_GROUPS` names the `i`-th group of the peer, the value of
`SSL_CTRL_GET_SHARED_GROUP` for `n ≠ -1` names `tls1_shared_group(s, n)`, and the value of
`SSL_CTRL_GET_NEGOTIATED_GROUP` names the negotiated group. -/
structure NamesDecode (k : Consts) (lib : SslLib) (nids : NidMap) (s : Ssl) (session : Session) :
    Prop where
  getGroups : ∃ vals, ssl3Ctrl k lib nids s (.getGroups true) =
      some (s, (s.ext.peerSupportedgroups.length : Int), .nids vals) ∧
    vals.map (sslGroupToName nids s) =
      s.ext.peerSupportedgroups.map fun id => (tls1GroupIdLookup s.ctx id).map (·.tlsname)
  getSharedGroup : ∀ n : Int, n ≠ -1 → ∃ v : Int,
    ssl3Ctrl k lib nids s (.getSharedGroup n) = some (s, v, .nothing) ∧
      sslGroupToName nids s v.toNat = (tls1GroupIdLookup s.ctx (lib.sharedGroup s n)).map (·.tlsname)
  getNegotiatedGroup : ∃ v : Int, ssl3Ctrl k lib nids s .getNegotiatedGroup = some (s, v, .nothing) ∧
    sslGroupToName nids s v.toNat =
      (tls1GroupIdLookup s.ctx (negotiatedGroupId s session)).map (·.tlsname)

/-- Under the laws of the table, on every connection with a session `SSL_group_to_name` decodes
the group values of `ssl3_ctrl`. -/
theorem sslGroupToName_of_ctrl (k : Consts) (lib : SslLib) (nids : NidMap) (lawful : LawfulNids nids)
    (s : Ssl) (session : Session) (hasSession : s.session = some session) :
    NamesDecode k lib nids s session := by
  refine ⟨⟨s.ext.peerSupportedgroups.map (getGroupsEntry nids s.ctx), by simp [ssl3Ctrl, hasSession], ?_⟩,
    fun n notAll => ⟨nids.groupId2nid (lib.sharedGroup s n), by simp [ssl3Ctrl, notAll], ?_⟩,
    ⟨nids.groupId2nid (negotiatedGroupId s session), ?_, ?_⟩⟩
  · simp only [List.map_map]
    exact List.map_congr_left fun id _ => sslGroupToName_getGroupsEntry lawful s id
  · simpa using sslGroupToName_groupId2nid lawful s (lib.sharedGroup s n)
  · unfold negotiatedGroupId
    split <;> simp_all [ssl3Ctrl]
  · simpa using sslGroupToName_groupId2nid lawful s (negotiatedGroupId s session)

/-- A table whose one built-in group is `secp256r1` (group id 23, NID 415). -/
def p256Nids : NidMap where
  groupId2nid id := if id = 23 then 415 else if id = 0 then 0 else 0x1000000 ||| id.toNat
  nid2groupId nid := if nid = 415 then 23 else 0
  nidUnknown := 0x1000000
  builtin id := id == 23

private theorem lawfulNids_p256 : LawfulNids p256Nids where
  nidUnknown_eq := rfl
  nid2groupId_groupId2nid id builtin := by
    obtain rfl : id = 23 := by simpa [p256Nids] using builtin
    rfl
  groupId2nid_unknown id builtin nonzero := by
    have : id ≠ 23 := by simpa [p256Nids] using builtin
    simp [p256Nids, this, nonzero]
  builtin_zero := rfl
  groupId2nid_zero := rfl
  nid2groupId_zero := rfl
  builtin_no_unknown id builtin := by
    obtain rfl : id = 23 := by simpa [p256Nids] using builtin
    rfl

theorem sslGroupToName_of_ctrl_p256 :
    let s : Ssl := { ctx := { SslCtx.zeroKeys with groupList := [⟨23, "secp256r1"⟩] },
                     session := some ⟨23⟩, ext := { peerSupportedgroups := [23, 29] } }
    (LawfulNids p256Nids ∧ s.session = some ⟨23⟩) ∧
      NamesDecode Consts.release ⟨true, fun _ s => (s, 0), fun _ _ => 29⟩ p256Nids s ⟨23⟩ :=
  ⟨⟨lawfulNids_p256, rfl⟩, sslGroupToName_of_ctrl _ _ _ lawfulNids_p256 _ _ rfl⟩

end S3Lib.GroupNames
