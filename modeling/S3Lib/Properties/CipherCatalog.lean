import Mathlib.Data.List.Nodup
import Mathlib.Data.List.Sort
import S3Lib.Model.Catalog

/-! # Lookups in the sorted cipher catalog

After `ssl_sort_cipher_list` each table is sorted by id, and the binary search of
`OBJ_bsearch_ssl_cipher_id` finds exactly what a scan for the id finds. On a catalog whose ids are
distinct (`CatalogWF`) every entry is found again from its id, from its standard name, and from the
two wire bytes that `ssl3_put_cipher_by_char` writes for it.
-/

namespace S3Lib.CipherCatalog

open S3Lib

/-- A table sorted by id, strictly. -/
def IdSorted (tbl : List CatalogEntry) : Prop := tbl.Pairwise fun a b => a.suite.id < b.suite.id

/-- The entries of the three tables, in the order of the lookups. -/
def allEntries (cat : Catalog) : List CatalogEntry := cat.tls13 ++ cat.ssl3 ++ cat.scsvs

/-- What the catalog's data must satisfy: distinct ids, also across tables; distinct standard
names; and a tagged id is the tag followed by a 16-bit wire code. -/
structure CatalogWF (cat : Catalog) : Prop where
  ids_nodup : ((allEntries cat).map (·.suite.id)).Nodup
  names_unique : ∀ x ∈ allEntries cat, ∀ y ∈ allEntries cat, x.stdname.isSome →
    x.stdname = y.stdname → x = y
  tagged_code : ∀ e ∈ allEntries cat, e.suite.id &&& 0xff000000 = ssl3CkCiphersuiteFlag →
    e.suite.id < ssl3CkCiphersuiteFlag + 2 ^ 16

section Search

variable {id : Nat} {tbl : List CatalogEntry}

private theorem IdSorted.lt_of_lt (sorted : IdSorted tbl) {i j : Nat} {a b : CatalogEntry}
    (at_i : tbl[i]? = some a) (at_j : tbl[j]? = some b) (lt : i < j) : a.suite.id < b.suite.id := by
  obtain ⟨hi, rfl⟩ := List.getElem?_eq_some_iff.mp at_i
  obtain ⟨hj, rfl⟩ := List.getElem?_eq_some_iff.mp at_j
  exact List.pairwise_iff_getElem.mp sorted i j hi hj lt

private theorem IdSorted.eq_of_id (sorted : IdSorted tbl) {a b : CatalogEntry} (ha : a ∈ tbl) (hb : b ∈ tbl)
    (same : a.suite.id = b.suite.id) : a = b :=
  List.inj_on_of_nodup_map (List.pairwise_map.mpr (sorted.imp Nat.ne_of_lt)) ha hb same

/-- One probe of the search: the entry at the middle of a non-empty window. -/
private theorem bsearchCipherId_probe {lo hi : Nat} (lt : lo < hi) {q : CatalogEntry}
    (at_mid : tbl[(lo + hi) / 2]? = some q) :
    bsearchCipherId id tbl lo hi =
      if id < q.suite.id then bsearchCipherId id tbl lo ((lo + hi) / 2)
      else if q.suite.id < id then bsearchCipherId id tbl ((lo + hi) / 2 + 1) hi
      else some q := by
  rw [bsearchCipherId, if_pos lt, at_mid]

/-- What the search returns has the key and is in the table, sorted or not. -/
private theorem bsearchCipherId_sound {lo hi : Nat} {p : CatalogEntry}
    (found : bsearchCipherId id tbl lo hi = some p) : p ∈ tbl ∧ p.suite.id = id := by
  induction lo, hi using bsearchCipherId.induct id tbl with
  | case1 lo hi lt missing => simp [bsearchCipherId, lt, missing] at found
  | case2 lo hi lt q at_mid less ih =>
    rw [bsearchCipherId_probe lt at_mid, if_pos less] at found
    exact ih found
  | case3 lo hi lt q at_mid notLess greater ih =>
    rw [bsearchCipherId_probe lt at_mid, if_neg notLess, if_pos greater] at found
    exact ih found
  | case4 lo hi lt q at_mid notLess notGreater =>
    rw [bsearchCipherId_probe lt at_mid, if_neg notLess, if_neg notGreater, Option.some.injEq] at found
    subst found
    exact ⟨List.getElem?_mem at_mid, by omega⟩
  | case5 lo hi notLt => simp [bsearchCipherId, notLt] at found

/-- On a sorted table the search finds a key present in its window. -/
private theorem bsearchCipherId_complete (sorted : IdSorted tbl) {lo hi k : Nat} (inside : lo ≤ k ∧ k < hi)
    (bounded : hi ≤ tbl.length) {e : CatalogEntry} (at_k : tbl[k]? = some e) (key : e.suite.id = id) :
    (bsearchCipherId id tbl lo hi).isSome := by
  induction lo, hi using bsearchCipherId.induct id tbl with
  | case1 lo hi lt missing =>
    exact absurd missing (by simp only [List.getElem?_eq_none_iff, not_le]; omega)
  | case2 lo hi lt q at_mid less ih =>
    rw [bsearchCipherId_probe lt at_mid, if_pos less]
    have below : k < (lo + hi) / 2 := Nat.lt_of_not_le fun above => by
      rcases Nat.eq_or_lt_of_le above with same | after
      · rw [same, at_k, Option.some.injEq] at at_mid
        subst at_mid
        omega
      · have := sorted.lt_of_lt at_mid at_k after
        omega
    exact ih ⟨inside.1, below⟩ (by omega)
  | case3 lo hi lt q at_mid notLess greater ih =>
    rw [bsearchCipherId_probe lt at_mid, if_neg notLess, if_pos greater]
    have above : (lo + hi) / 2 < k := Nat.lt_of_not_le fun below => by
      rcases Nat.eq_or_lt_of_le below with same | before
      · rw [← same, at_k, Option.some.injEq] at at_mid
        subst at_mid
        omega
      · have := sorted.lt_of_lt at_k at_mid before
        omega
    exact ih ⟨above, inside.2⟩ bounded
  | case4 lo hi lt q at_mid notLess notGreater =>
    rw [bsearchCipherId_probe lt at_mid, if_neg notLess, if_neg notGreater, Option.isSome_some]
  | case5 lo hi notLt => omega

/-- On a strictly sorted table `OBJ_bsearch_ssl_cipher_id` finds what a scan for the id finds. -/
private theorem objBsearchSslCipherId_eq (sorted : IdSorted tbl) (id : Nat) :
    objBsearchSslCipherId id tbl = tbl.find? (·.suite.id == id) := by
  cases scan : tbl.find? (·.suite.id == id) with
  | none =>
    cases found : objBsearchSslCipherId id tbl with
    | none => rfl
    | some p =>
      obtain ⟨mem, key⟩ := bsearchCipherId_sound found
      simpa [key] using List.find?_eq_none.mp scan p mem
  | some e =>
    have mem : e ∈ tbl := List.mem_of_find?_eq_some scan
    have key : e.suite.id = id := by simpa using List.find?_some scan
    obtain ⟨k, hk, at_k⟩ := List.getElem_of_mem mem
    obtain ⟨p, found⟩ := Option.isSome_iff_exists.mp
      (bsearchCipherId_complete sorted ⟨Nat.zero_le k, hk⟩ le_rfl (at_k ▸ List.getElem?_eq_getElem hk) key)
    obtain ⟨pmem, pkey⟩ := bsearchCipherId_sound found
    rw [objBsearchSslCipherId, found, sorted.eq_of_id pmem mem (pkey.trans key.symm)]

/-- Unsorted, the sample's `ssl3_ciphers` hides `0x0300ff16` from the search. -/
example : ssl3GetCipherById Catalog.sample 0x0300ff16 = none := by
  simp [ssl3GetCipherById, objBsearchSslCipherId, bsearchCipherId, Catalog.sample]

end Search

private theorem decide_cipherCompare_le (a b : CatalogEntry) :
    decide (cipherCompare a b ≤ 0) = decide (a.suite.id ≤ b.suite.id) := by
  unfold cipherCompare
  split_ifs <;> simp <;> omega

/-- `qsort` with `cipher_compare` sorts by id, strictly when the ids are distinct. -/
private theorem qsort_cipherCompare_sorted (tbl : List CatalogEntry)
    (distinct : (tbl.map (·.suite.id)).Nodup) : IdSorted (qsort cipherCompare tbl) := by
  have ordered : (qsort cipherCompare tbl).Pairwise fun a b => decide (cipherCompare a b ≤ 0) :=
    List.sorted_mergeSort
      (fun a b c => by simp only [decide_cipherCompare_le, decide_eq_true_eq]; omega)
      (fun a b => by simp only [decide_cipherCompare_le, Bool.or_eq_true, decide_eq_true_eq]; omega) tbl
  have nodup : ((qsort cipherCompare tbl).map (·.suite.id)).Nodup :=
    ((List.mergeSort_perm tbl _).map _).nodup_iff.mpr distinct
  refine (ordered.and (List.pairwise_map.mp nodup)).imp fun ⟨le, ne⟩ => ?_
  simp only [decide_cipherCompare_le, decide_eq_true_eq] at le
  omega

/-- Two tables with the same entries, of distinct ids, sort to the same table. -/
private theorem qsort_cipherCompare_eq_of_perm {tbl other : List CatalogEntry} (perm : other.Perm tbl)
    (distinct : (tbl.map (·.suite.id)).Nodup) :
    qsort cipherCompare other = qsort cipherCompare tbl := by
  have : IsAntisymm CatalogEntry fun a b => a.suite.id < b.suite.id :=
    ⟨fun _ _ lt gt => absurd (lt.trans gt) (Nat.lt_irrefl _)⟩
  exact List.eq_of_perm_of_sorted
    (((List.mergeSort_perm _ _).trans perm).trans (List.mergeSort_perm _ _).symm)
    (qsort_cipherCompare_sorted other ((perm.map _).nodup_iff.mpr distinct))
    (qsort_cipherCompare_sorted tbl distinct)

/-- A scan finds the one entry that satisfies its test. -/
private theorem find?_eq_of_unique {p : CatalogEntry → Bool} {l : List CatalogEntry} {e : CatalogEntry}
    (mem : e ∈ l) (holds : p e = true) (unique : ∀ x ∈ l, p x = true → x = e) : l.find? p = some e := by
  cases found : l.find? p with
  | none => exact absurd holds (by simpa using List.find?_eq_none.mp found e mem)
  | some x => rw [unique x (List.mem_of_find?_eq_some found) (List.find?_some found)]

/-- `ssl3_get_cipher_by_id` on sorted tables scans the catalog in lookup order. -/
private theorem ssl3GetCipherById_eq (cat : Catalog)
    (sorted : IdSorted cat.tls13 ∧ IdSorted cat.ssl3 ∧ IdSorted cat.scsvs) (id : Nat) :
    ssl3GetCipherById cat id = (allEntries cat).find? (·.suite.id == id) := by
  rw [ssl3GetCipherById, objBsearchSslCipherId_eq sorted.1, objBsearchSslCipherId_eq sorted.2.1,
    objBsearchSslCipherId_eq sorted.2.2, allEntries, List.find?_append, List.find?_append]
  cases cat.tls13.find? _ <;> cases cat.ssl3.find? _ <;> rfl

/-- `ssl3_get_cipher_by_std_name` scans the catalog in lookup order. -/
private theorem ssl3GetCipherByStdName_eq (cat : Catalog) (stdname : String) :
    ssl3GetCipherByStdName cat stdname = (allEntries cat).find? (·.stdname == some stdname) := by
  simp only [ssl3GetCipherByStdName, List.findSome?_cons, List.findSome?_nil, allEntries,
    List.find?_append]
  cases cat.tls13.find? _ <;> cases cat.ssl3.find? _ <;> cases cat.scsvs.find? _ <;> rfl

/-- The sort keeps the entries of each table. -/
private theorem allEntries_sslSortCipherList_perm (cat : Catalog) :
    (allEntries (sslSortCipherList cat)).Perm (allEntries cat) :=
  ((List.mergeSort_perm _ _).append (List.mergeSort_perm _ _)).append (List.mergeSort_perm _ _)

/-- The two bytes written for an id carrying the tag spell the id again once the tag is put
back. -/
private theorem ssl3GetCipherByChar_code (id : Nat) (tagged : id &&& 0xff000000 = ssl3CkCiphersuiteFlag)
    (short : id < ssl3CkCiphersuiteFlag + 2 ^ 16) :
    ssl3CkCiphersuiteFlag ||| ((UInt8.ofNat ((id &&& 0xffff) / 2 ^ 8)).toNat <<< 8) |||
      (UInt8.ofNat (id &&& 0xffff)).toNat = id := by
  have above : ssl3CkCiphersuiteFlag ≤ id := tagged ▸ Nat.and_le_left
  have low : id &&& 0xffff = id % 2 ^ 16 := Nat.and_pow_two_sub_one_eq_mod id 16
  have code : id = 2 ^ 16 * 768 + id % 2 ^ 16 := by unfold ssl3CkCiphersuiteFlag at above short; omega
  have bytes : 2 ^ 8 * (id % 2 ^ 16 / 2 ^ 8) + id % 2 ^ 16 % 2 ^ 8 = id % 2 ^ 16 := by omega
  have high : (UInt8.ofNat (id % 2 ^ 16 / 2 ^ 8)).toNat = id % 2 ^ 16 / 2 ^ 8 :=
    Nat.mod_eq_of_lt (by omega)
  have lowByte : (UInt8.ofNat (id % 2 ^ 16)).toNat = id % 2 ^ 16 % 2 ^ 8 := rfl
  rw [low, high, lowByte, Nat.shiftLeft_eq, Nat.or_assoc, Nat.mul_comm (id % 2 ^ 16 / 2 ^ 8),
    ← Nat.mul_add_lt_is_or (by omega), bytes, show ssl3CkCiphersuiteFlag = 2 ^ 16 * 768 from rfl,
    ← Nat.mul_add_lt_is_or (by omega), ← code]

private theorem sampleWF : CatalogWF Catalog.sample := ⟨by decide, by decide, by decide⟩

section WellFormed

variable {cat : Catalog} (wf : CatalogWF cat)

include wf

private theorem CatalogWF.tables_nodup :
    (cat.tls13.map (·.suite.id)).Nodup ∧ (cat.ssl3.map (·.suite.id)).Nodup ∧
      (cat.scsvs.map (·.suite.id)).Nodup := by
  have nodup := wf.ids_nodup
  simp only [allEntries, List.map_append, List.nodup_append] at nodup
  exact ⟨nodup.1.1, nodup.1.2.1, nodup.2.1⟩

private theorem CatalogWF.sorted :
    IdSorted (sslSortCipherList cat).tls13 ∧ IdSorted (sslSortCipherList cat).ssl3 ∧
      IdSorted (sslSortCipherList cat).scsvs :=
  ⟨qsort_cipherCompare_sorted _ wf.tables_nodup.1, qsort_cipherCompare_sorted _ wf.tables_nodup.2.1,
    qsort_cipherCompare_sorted _ wf.tables_nodup.2.2⟩

/-- Every entry is found again from its id in the sorted catalog. -/
private theorem CatalogWF.getCipherById {e : CatalogEntry} (mem : e ∈ allEntries cat) :
    ssl3GetCipherById (sslSortCipherList cat) e.suite.id = some e := by
  have perm := allEntries_sslSortCipherList_perm cat
  have nodup := (perm.map (·.suite.id)).nodup_iff.mpr wf.ids_nodup
  rw [ssl3GetCipherById_eq _ wf.sorted]
  exact find?_eq_of_unique (perm.mem_iff.mpr mem) (by simp) fun x xmem same =>
    List.inj_on_of_nodup_map nodup xmem (perm.mem_iff.mpr mem) (by simpa using same)

end WellFormed

/-- After `ssl_sort_cipher_list` each table is sorted by id and holds the entries it held, and every
entry of a well-formed catalog is found again from its id and from its standard name. -/
theorem sslSortCipherList_round_trip (cat : Catalog) (wf : CatalogWF cat) :
    let sorted := sslSortCipherList cat
    (IdSorted sorted.tls13 ∧ IdSorted sorted.ssl3 ∧ IdSorted sorted.scsvs) ∧
      (sorted.tls13.Perm cat.tls13 ∧ sorted.ssl3.Perm cat.ssl3 ∧ sorted.scsvs.Perm cat.scsvs) ∧
      ∀ e ∈ allEntries cat, ssl3GetCipherById sorted e.suite.id = some e ∧
        ∀ stdname, e.stdname = some stdname → ssl3GetCipherByStdName sorted stdname = some e := by
  have perm := allEntries_sslSortCipherList_perm cat
  refine ⟨wf.sorted, ⟨List.mergeSort_perm _ _, List.mergeSort_perm _ _, List.mergeSort_perm _ _⟩,
    fun e mem => ⟨wf.getCipherById mem, fun stdname named => ?_⟩⟩
  rw [ssl3GetCipherByStdName_eq]
  refine find?_eq_of_unique (perm.mem_iff.mpr mem) (by simp [named]) fun x xmem same => ?_
  have xnamed : x.stdname = some stdname := by simpa using same
  exact wf.names_unique x (perm.mem_iff.mp xmem) e mem (by simp [xnamed]) (xnamed.trans named.symm)

theorem sslSortCipherList_round_trip_sample :
    CatalogWF Catalog.sample ∧
      let sorted := sslSortCipherList Catalog.sample
      (IdSorted sorted.tls13 ∧ IdSorted sorted.ssl3 ∧ IdSorted sorted.scsvs) ∧
        (sorted.tls13.Perm Catalog.sample.tls13 ∧ sorted.ssl3.Perm Catalog.sample.ssl3 ∧
          sorted.scsvs.Perm Catalog.sample.scsvs) ∧
        ∀ e ∈ allEntries Catalog.sample, ssl3GetCipherById sorted e.suite.id = some e ∧
          ∀ stdname, e.stdname = some stdname → ssl3GetCipherByStdName sorted stdname = some e :=
  ⟨sampleWF, sslSortCipherList_round_trip Catalog.sample sampleWF⟩

/-- `ssl3_put_cipher_by_char` writes the two bytes of a tagged id when they fit, and
`ssl3_get_cipher_by_char` of those bytes finds the entry in the sorted catalog; when they do not
fit it fails and leaves `*len` alone; for an id without the tag it writes nothing and stores `0`. -/
theorem ssl3PutCipherByChar_round_trip (cat : Catalog) (wf : CatalogWF cat) (e : CatalogEntry)
    (mem : e ∈ allEntries cat) (pkt : WPacket) :
    (e.suite.id &&& 0xff000000 = ssl3CkCiphersuiteFlag →
      (2 ≤ pkt.room → ∃ p0 p1,
        ssl3PutCipherByChar e pkt = (1, ⟨pkt.written ++ [p0, p1], pkt.room - 2⟩, some 2) ∧
          ssl3GetCipherByChar (sslSortCipherList cat) p0 p1 = some e) ∧
      (pkt.room < 2 → ssl3PutCipherByChar e pkt = (0, pkt, none))) ∧
    (e.suite.id &&& 0xff000000 ≠ ssl3CkCiphersuiteFlag → ssl3PutCipherByChar e pkt = (1, pkt, some 0)) := by
  refine ⟨fun tagged => ⟨fun room => ⟨UInt8.ofNat ((e.suite.id &&& 0xffff) / 2 ^ 8),
    UInt8.ofNat (e.suite.id &&& 0xffff), ?_, ?_⟩, fun full => ?_⟩, fun untagged => ?_⟩
  · simp [ssl3PutCipherByChar, tagged, WPacket.putBytesU16, show ¬pkt.room < 2 by omega]
  · rw [ssl3GetCipherByChar, ssl3GetCipherByChar_code _ tagged (wf.tagged_code e mem tagged)]
    exact wf.getCipherById mem
  · simp [ssl3PutCipherByChar, tagged, WPacket.putBytesU16, full]
  · simp [ssl3PutCipherByChar, untagged]

theorem ssl3PutCipherByChar_round_trip_national :
    CatalogWF Catalog.sample ∧
      ⟨⟨0x0300ff15, 0, 0, 0, 0x303, 0x303, 0, 0, 0, 256⟩, some "TLS_DHE_BIGN_WITH_BELT_CTR_MAC_HBELT"⟩ ∈
        allEntries Catalog.sample ∧
      let e : CatalogEntry :=
        ⟨⟨0x0300ff15, 0, 0, 0, 0x303, 0x303, 0, 0, 0, 256⟩, some "TLS_DHE_BIGN_WITH_BELT_CTR_MAC_HBELT"⟩
      let pkt : WPacket := ⟨[], 2⟩
      (e.suite.id &&& 0xff000000 = ssl3CkCiphersuiteFlag →
        (2 ≤ pkt.room → ∃ p0 p1,
          ssl3PutCipherByChar e pkt = (1, ⟨pkt.written ++ [p0, p1], pkt.room - 2⟩, some 2) ∧
            ssl3GetCipherByChar (sslSortCipherList Catalog.sample) p0 p1 = some e) ∧
        (pkt.room < 2 → ssl3PutCipherByChar e pkt = (0, pkt, none))) ∧
      (e.suite.id &&& 0xff000000 ≠ ssl3CkCiphersuiteFlag → ssl3PutCipherByChar e pkt = (1, pkt, some 0)) :=
  ⟨sampleWF, by decide, ssl3PutCipherByChar_round_trip Catalog.sample sampleWF _ (by decide) ⟨[], 2⟩⟩

/-- On tables with distinct ids, the catalog `ssl_sort_cipher_list` leaves depends only on which
entries each table holds, not on the order in which the source lists them. -/
theorem sslSortCipherList_canonical (cat other : Catalog)
    (distinct : (cat.tls13.map (·.suite.id)).Nodup ∧ (cat.ssl3.map (·.suite.id)).Nodup ∧
      (cat.scsvs.map (·.suite.id)).Nodup)
    (perm : other.tls13.Perm cat.tls13 ∧ other.ssl3.Perm cat.ssl3 ∧ other.scsvs.Perm cat.scsvs) :
    sslSortCipherList other = sslSortCipherList cat := by
  simp only [sslSortCipherList, qsort_cipherCompare_eq_of_perm perm.1 distinct.1,
    qsort_cipherCompare_eq_of_perm perm.2.1 distinct.2.1,
    qsort_cipherCompare_eq_of_perm perm.2.2 distinct.2.2]

theorem sslSortCipherList_canonical_reversed :
    let reversed : Catalog :=
      ⟨Catalog.sample.tls13.reverse, Catalog.sample.ssl3.reverse, Catalog.sample.scsvs.reverse⟩
    ((Catalog.sample.tls13.map (·.suite.id)).Nodup ∧ (Catalog.sample.ssl3.map (·.suite.id)).Nodup ∧
      (Catalog.sample.scsvs.map (·.suite.id)).Nodup) ∧
    (reversed.tls13.Perm Catalog.sample.tls13 ∧ reversed.ssl3.Perm Catalog.sample.ssl3 ∧
      reversed.scsvs.Perm Catalog.sample.scsvs) ∧
    sslSortCipherList reversed = sslSortCipherList Catalog.sample :=
  ⟨⟨by decide, by decide, by decide⟩, ⟨List.reverse_perm _, List.reverse_perm _, List.reverse_perm _⟩,
    sslSortCipherList_canonical _ _ ⟨by decide, by decide, by decide⟩
      ⟨List.reverse_perm _, List.reverse_perm _, List.reverse_perm _⟩⟩

/-! ### Enumerating `ssl3_ciphers` -/

/-- `ssl3_get_cipher` at the indices below `ssl3_num_ciphers` reads the whole table from its end. -/
private theorem range_map_ssl3GetCipher (cat : Catalog) :
    (List.range (ssl3NumCiphers cat)).map (ssl3GetCipher cat) = cat.ssl3.reverse.map some := by
  apply List.ext_getElem
  · simp [ssl3NumCiphers]
  · intro i inRange _
    have lt : i < cat.ssl3.length := by simpa [ssl3NumCiphers] using inRange
    simp [ssl3GetCipher, lt, List.getElem_reverse]

/-- After `ssl_sort_cipher_list`, a loop over `ssl3_get_cipher(i)` for `i < ssl3_num_ciphers()`
meets no `NULL` and lists every entry of `ssl3_ciphers` once, by strictly decreasing id. -/
theorem ssl3GetCipher_enumerates (cat : Catalog) (distinct : (cat.ssl3.map (·.suite.id)).Nodup) :
    let sorted := sslSortCipherList cat
    ∃ listed : List CatalogEntry,
      (List.range (ssl3NumCiphers sorted)).map (ssl3GetCipher sorted) = listed.map some ∧
        listed.Perm cat.ssl3 ∧ listed.Pairwise fun a b => b.suite.id < a.suite.id :=
  ⟨_, range_map_ssl3GetCipher _, (List.reverse_perm _).trans (List.mergeSort_perm _ _),
    List.pairwise_reverse.mpr (qsort_cipherCompare_sorted _ distinct)⟩

theorem ssl3GetCipher_enumerates_sample :
    (Catalog.sample.ssl3.map (·.suite.id)).Nodup ∧
      let sorted := sslSortCipherList Catalog.sample
      ∃ listed : List CatalogEntry,
        (List.range (ssl3NumCiphers sorted)).map (ssl3GetCipher sorted) = listed.map some ∧
          listed.Perm Catalog.sample.ssl3 ∧ listed.Pairwise fun a b => b.suite.id < a.suite.id :=
  ⟨by decide, ssl3GetCipher_enumerates Catalog.sample (by decide)⟩

end S3Lib.CipherCatalog
