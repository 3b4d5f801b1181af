import Escrow.Proofs.Engine.Payout
import Escrow.Proofs.Crypto.Whitelist
import Escrow.Engine.Views

/-! The owner index lists each owner's locks in id order.

A lock is stored under its id written in 8 bytes, most significant first, and indexed under its
owner's 20 bytes followed by the same 8. Byte strings of one length sort as the numbers they spell,
so while ids fit 64 bits an owner's keys sort as their ids do (`ownerLockKey_lt_ownerLockKey_iff`),
and an owner's 20 bytes begin that owner's keys and no other's (`isPrefixOf_ownerLockKey`).

Every write of a lock is either a new lock under a fresh id or a rewrite of a stored lock that
keeps its id and owner, so along every run the index holds exactly one key for each stored lock
(`indexed_of_reachable`); the keys carry no lock count and no order, which the ids give. While the
ids fit 64 bits, the index then lists an owner's ids in strictly increasing order, the store lists
its locks in increasing id order, and the owner's view is the summaries of exactly the owner's
locks in that order (`ownerIndex_consistent`).
-/

set_option autoImplicit false

namespace Escrow

open Escrow.Text

/-! ### Tables whose keys are distinct -/

namespace Table

variable {κ ν : Type} [DecidableEq κ]

theorem mem_keys_insert (t : Table κ ν) (k k' : κ) (v : ν) :
    k' ∈ (t.insert k v).entries.map Prod.fst ↔ k' = k ∨ k' ∈ t.entries.map Prod.fst := by
  by_cases same : k' = k
  · simp [insert, same]
  · simp [insert, same]

theorem nodup_keys_insert {t : Table κ ν} (distinct : (t.entries.map Prod.fst).Nodup) (k : κ)
    (v : ν) : ((t.insert k v).entries.map Prod.fst).Nodup := by
  simp only [insert, List.map_cons, List.nodup_cons]
  exact ⟨by simp, distinct.sublist (List.filter_sublist.map Prod.fst)⟩

theorem mem_entries_iff {t : Table κ ν} (distinct : (t.entries.map Prod.fst).Nodup) (k : κ)
    (v : ν) : (k, v) ∈ t.entries ↔ t.get? k = some v := by
  obtain ⟨entries⟩ := t
  induction entries with
  | nil => simp [get?]
  | cons e rest ih =>
    simp only [List.map_cons, List.nodup_cons] at distinct
    by_cases here : e.1 = k
    · -- the first entry is the one read, and no later entry has its key
      have absent : (k, v) ∉ rest := fun member =>
        distinct.1 (here ▸ List.mem_map_of_mem (f := Prod.fst) member)
      obtain ⟨k', v'⟩ := e
      simp only at here
      subst here
      simp [get?, absent, eq_comm]
    · have later := ih distinct.2
      simp only [get?] at later
      simp only [get?, List.find?_cons, here, decide_false, List.mem_cons, later]
      constructor
      · rintro (rfl | found)
        · exact absurd rfl here
        · exact found
      · exact .inr

end Table

namespace Store

/-! ### Keys -/

theorem length_ownerLockKey (owner : Address) (id : Nat) : (ownerLockKey owner id).length = 28 := by
  simp [ownerLockKey, lockKey]

theorem ofBigEndian_ownerLockKey (owner : Address) (id : Nat) :
    ofBigEndian (ownerLockKey owner id) = owner.val * 2 ^ 64 + id % 2 ^ 64 := by
  have ownerFits : owner.val < 256 ^ 20 := lt_of_lt_of_eq owner.isLt (by decide)
  rw [ownerLockKey, ofBigEndian_append, lockKey, Address.toBytes, ofBigEndian_bigEndian,
    ofBigEndian_bigEndian, Nat.mod_eq_of_lt ownerFits, length_bigEndian]
  norm_num

theorem isPrefixOf_ownerLockKey (owner other : Address) (id : Nat) :
    owner.toBytes.isPrefixOf (ownerLockKey other id) = true ↔ other = owner := by
  rw [List.isPrefixOf_iff_prefix, List.prefix_iff_eq_take, Address.length_toBytes, ownerLockKey,
    List.take_left' (Address.length_toBytes other)]
  exact ⟨fun same => Address.toBytes_inj same.symm, fun same => by rw [same]⟩

theorem ofBigEndian_drop_ownerLockKey (owner : Address) (id : Nat) :
    ofBigEndian ((ownerLockKey owner id).drop 20) = id % 2 ^ 64 := by
  rw [ownerLockKey, List.drop_left' (Address.length_toBytes owner), lockKey, ofBigEndian_bigEndian]
  norm_num

/-- The keys repeat past 2^64: an id and the same id plus 2^64 are indexed under one key, which is
why the listings below hold only while ids fit 64 bits. -/
theorem ownerLockKey_add_two_pow (owner : Address) (id : Nat) :
    ownerLockKey owner (id + 2 ^ 64) = ownerLockKey owner id := by
  apply ofBigEndian_inj (by simp [length_ownerLockKey])
  rw [ofBigEndian_ownerLockKey, ofBigEndian_ownerLockKey, Nat.add_mod_right]

theorem lockKey_lt_lockKey_iff {a b : Nat} (ha : a < 2 ^ 64) (hb : b < 2 ^ 64) :
    lockKey a < lockKey b ↔ a < b :=
  bigEndian_lt_bigEndian_iff (lt_of_lt_of_eq ha (by norm_num)) (lt_of_lt_of_eq hb (by norm_num))

theorem ownerLockKey_lt_ownerLockKey_iff (owner : Address) {a b : Nat} (ha : a < 2 ^ 64)
    (hb : b < 2 ^ 64) : ownerLockKey owner a < ownerLockKey owner b ↔ a < b := by
  rw [lt_iff_ofBigEndian_lt (by simp [length_ownerLockKey]), ofBigEndian_ownerLockKey,
    ofBigEndian_ownerLockKey, Nat.mod_eq_of_lt ha, Nat.mod_eq_of_lt hb]
  omega

/-! ### Byte order -/

theorem perm_inByteOrder {α : Type} (key : α → List UInt8) (items : List α) :
    (inByteOrder key items).Perm items :=
  List.mergeSort_perm items _

theorem pairwise_inByteOrder {α : Type} (key : α → List UInt8) (items : List α) :
    (inByteOrder key items).Pairwise fun a b => key a ≤ key b := by
  have sorted := @List.pairwise_mergeSort α (fun a b => decide (key a ≤ key b))
    (fun a b c ab bc => by simpa using List.le_trans (of_decide_eq_true ab) (of_decide_eq_true bc))
    (fun a b => by simpa using List.le_total (key a) (key b)) items
  simpa [inByteOrder] using sorted

theorem pairwise_lt_inByteOrder {α : Type} (key : α → List UInt8) {items : List α}
    (distinct : (items.map key).Nodup) :
    (inByteOrder key items).Pairwise fun a b => key a < key b := by
  have distinct' : ((inByteOrder key items).map key).Nodup :=
    distinct.perm ((perm_inByteOrder key items).map key).symm
  refine ((pairwise_inByteOrder key items).and (List.pairwise_map.mp distinct')).imp ?_
  rintro a b ⟨le, ne⟩
  exact (List.le_iff_lt_or_eq.mp le).resolve_right ne

/-! ### The index holds one key per stored lock -/

theorem Consistent.lt_nextLockId {st : Store} (consistent : st.Consistent) {id : Nat} {l : Lock}
    (found : st.locks.get? id = some l) : id < st.nextLockId :=
  (consistent.lockIds id).mp (by simp [found])

/-- The owner index holds one key for each stored lock, made of its owner and its id, and no
other; no key and no lock id is listed twice. -/
structure Indexed (st : Store) : Prop where
  keys : ∀ key, key ∈ st.ownerIndex.entries.map Prod.fst ↔
    ∃ id l, st.locks.get? id = some l ∧ key = ownerLockKey l.owner id
  distinctKeys : (st.ownerIndex.entries.map Prod.fst).Nodup
  distinctIds : (st.locks.entries.map Prod.fst).Nodup

theorem indexed_empty (config? : Option Config) : Indexed { config? } := by
  refine ⟨fun key => ?_, List.nodup_nil, List.nodup_nil⟩
  simp

namespace Indexed

variable {st st' : Store}

theorem congr (indexed : Indexed st) (sameLocks : st'.locks = st.locks)
    (sameIndex : st'.ownerIndex = st.ownerIndex) : Indexed st' := by
  obtain ⟨keys, distinctKeys, distinctIds⟩ := indexed
  rw [← sameLocks, ← sameIndex] at *
  exact ⟨keys, distinctKeys, distinctIds⟩

theorem putLock (indexed : Indexed st) {l : Lock}
    (sameOwner : ∀ old, st.locks.get? l.id = some old → old.owner = l.owner) :
    Indexed (st.putLock l) := by
  refine ⟨fun key => ?_, Table.nodup_keys_insert indexed.distinctKeys _ _,
    Table.nodup_keys_insert indexed.distinctIds _ _⟩
  rw [ownerIndex_putLock, Table.mem_keys_insert, indexed.keys, locks_putLock]
  constructor
  · rintro (rfl | ⟨id, old, found, rfl⟩)
    · exact ⟨l.id, l, Table.get?_insert_self _ _ _, rfl⟩
    · by_cases here : l.id = id
      · subst here
        exact ⟨l.id, l, Table.get?_insert_self _ _ _, by rw [sameOwner old found]⟩
      · exact ⟨id, old, by rw [Table.get?_insert_ne _ _ here]; exact found, rfl⟩
  · rintro ⟨id, l', found, rfl⟩
    rw [Table.get?_insert] at found
    by_cases here : l.id = id
    · rw [if_pos here] at found
      cases found
      exact .inl (by rw [here])
    · rw [if_neg here] at found
      exact .inr ⟨id, l', found, rfl⟩

theorem setState (indexed : Indexed st) (consistent : st.Consistent) {id : Nat} {l : Lock}
    (found : st.locks.get? id = some l) (state : LockState) :
    Indexed (st.putLock { l with state }) := by
  have keyed := consistent.keyed id l found
  refine indexed.putLock fun old stored => ?_
  rw [keyed, found] at stored
  cases stored
  rfl

theorem create (indexed : Indexed st) (consistent : st.Consistent) (ledger : Ledger) {lock : Lock}
    {records : List CriterionRecord} (nextCriterionId : Nat) (lockId : lock.id = st.nextLockId) :
    Indexed { (records.foldl putCriterion { st with ledger }).putLock lock with
      nextCriterionId, nextLockId := st.nextLockId + 1 } := by
  refine (indexed.putLock (l := lock) fun old stored => ?_).congr (by simp) (by simp)
  have below := consistent.lt_nextLockId stored
  omega

theorem restore (indexed : Indexed st) (consistent : st.Consistent) {id : Nat} {l : Lock}
    (found : st.locks.get? id = some l) (state : LockState) :
    Indexed ((st.putLock { l with state }).putLock l) := by
  refine (indexed.setState consistent found state).putLock fun old stored => ?_
  rw [locks_putLock, Table.get?_insert_self] at stored
  cases stored
  rfl

end Indexed

end Store

/-! ### Along every run -/

namespace Action

variable {s : Session}

theorem indexed_create (indexed : s.engine.store.Indexed) (consistent : s.engine.store.Consistent)
    (caller : Address) (req : LockRequest) (now : Int) :
    (sessionAfter ((create caller req now).run s)).engine.store.Indexed := by
  rcases run_create_cases (show (create caller req now).run s = _ from rfl) with
    ⟨fault, refused⟩ | ⟨_, _, _, _, -, -, -, refused, restored⟩ |
      ⟨_, _, _, _, _, _, _, _, -, -, -, -, -, -, accepted, written⟩
  · rw [refused]
    exact indexed
  · rw [refused, sessionAfter_error, restored]
    exact indexed.congr rfl rfl
  · rw [accepted, sessionAfter_ok, written]
    exact indexed.create consistent _ _ rfl

theorem indexed_unlockWith (indexed : s.engine.store.Indexed)
    (consistent : s.engine.store.Consistent) (caller : Address) (id : Nat) (recipient : Address)
    (mode : UnlockMode) (now : Int) :
    (sessionAfter ((unlockWith caller id recipient mode now).run s)).engine.store.Indexed := by
  rcases run_unlockWith_cases
      (show (unlockWith caller id recipient mode now).run s = _ from rfl) with
    ⟨fault, after, refused, same, -⟩ |
      ⟨l, paid, inner, after, found, -, -, -, -, -, -, refused, restored⟩ |
      ⟨l, paid, paidOut, checked, after, -, found, -, -, -, -, -, -, accepted, written⟩
  · rw [refused, sessionAfter_error, same]
    exact indexed
  · rw [refused, sessionAfter_error, restored]
    exact indexed.restore consistent found _
  · rw [accepted, sessionAfter_ok, written]
    exact (indexed.setState consistent found _).congr rfl rfl

theorem indexed_unlock (indexed : s.engine.store.Indexed) (consistent : s.engine.store.Consistent)
    (caller : Address) (id : Nat) (recipient : Address) (mode : Nat) (data : List UInt8)
    (now : Int) :
    (sessionAfter ((unlock caller id recipient mode data now).run s)).engine.store.Indexed := by
  rw [run_unlock]
  cases UnlockMode.decode mode data with
  | ok decoded => exact indexed_unlockWith indexed consistent caller id recipient decoded now
  | error fault => exact indexed

theorem indexed_sign (indexed : s.engine.store.Indexed) (signer : Address) (id : Nat)
    (proof : List Digest) : (sessionAfter ((sign signer id proof).run s)).engine.store.Indexed := by
  rcases engine_sign signer id proof s with same | ⟨record, written⟩
  · rw [same]
    exact indexed
  · rw [written]
    exact indexed.congr rfl rfl

end Action

open Escrow.Action

theorem indexed_perform {s : Session} (indexed : s.engine.store.Indexed)
    (consistent : s.engine.store.Consistent) (op : Operation) :
    (op.perform s).engine.store.Indexed := by
  -- only a create, an unlock or a signature writes more than the settings and the ledger
  rcases Operation.perform_cases op s with ⟨caller, req, now, rfl⟩ |
    ⟨caller, id, recipient, mode, data, now, rfl⟩ |
    ⟨caller, id, recipient, mode, now, rfl⟩ | ⟨signer, id, proof, rfl⟩ |
    ⟨config?, ledger, same⟩
  · exact indexed_create indexed consistent caller req now
  · exact indexed_unlock indexed consistent caller id recipient mode data now
  · exact indexed_unlockWith indexed consistent caller id recipient mode now
  · exact indexed_sign indexed signer id proof
  · rw [same]
    exact indexed.congr rfl rfl

theorem indexed_of_reachable {allowed : Operation → Session → Prop} {s : Session}
    (reached : Reachable allowed s) : s.engine.store.Indexed := by
  induction reached with
  | start config started =>
    obtain ⟨rfl, -⟩ := Engine.start_eq_ok started
    exact Store.indexed_empty _
  | step reached _ indexed => exact indexed_perform indexed (consistent_of_reachable reached) _

namespace Store

/-! ### What the store lists while ids fit 64 bits -/

namespace Indexed

variable {st : Store}

theorem entry_of_mem (indexed : Indexed st) (consistent : st.Consistent)
    (fits : st.nextLockId ≤ 2 ^ 64) {entry : Nat × Lock} (member : entry ∈ st.locks.entries) :
    entry.2.id = entry.1 ∧ entry.1 < 2 ^ 64 := by
  have found := (Table.mem_entries_iff indexed.distinctIds entry.1 entry.2).mp member
  have below := consistent.lt_nextLockId found
  exact ⟨consistent.keyed _ _ found, by omega⟩

theorem ownerKey_of_mem (indexed : Indexed st) (consistent : st.Consistent)
    (fits : st.nextLockId ≤ 2 ^ 64) {owner : Address} {key : List UInt8}
    (listed : key ∈ st.ownerIndex.entries.map Prod.fst)
    (prefixed : owner.toBytes.isPrefixOf key = true) :
    ∃ id l, st.locks.get? id = some l ∧ l.owner = owner ∧ id < 2 ^ 64 ∧
      key = ownerLockKey owner id := by
  obtain ⟨id, l, found, rfl⟩ := (indexed.keys key).mp listed
  have owned := (isPrefixOf_ownerLockKey owner l.owner id).mp prefixed
  have below := consistent.lt_nextLockId found
  exact ⟨id, l, found, owned, by omega, by rw [owned]⟩

theorem mem_lockIdsByOwner (indexed : Indexed st) (consistent : st.Consistent)
    (fits : st.nextLockId ≤ 2 ^ 64) (owner : Address) (id : Nat) :
    id ∈ st.lockIdsByOwner owner ↔ ∃ l, st.locks.get? id = some l ∧ l.owner = owner := by
  rw [lockIdsByOwner, List.mem_map]
  simp only [List.mem_filter, (perm_inByteOrder _ _).mem_iff]
  constructor
  · rintro ⟨key, ⟨listed, prefixed⟩, rfl⟩
    obtain ⟨id, l, found, owned, small, rfl⟩ :=
      indexed.ownerKey_of_mem consistent fits listed prefixed
    rw [ofBigEndian_drop_ownerLockKey, Nat.mod_eq_of_lt small]
    exact ⟨l, found, owned⟩
  · rintro ⟨l, found, rfl⟩
    have below := consistent.lt_nextLockId found
    refine ⟨ownerLockKey l.owner id, ⟨(indexed.keys _).mpr ⟨id, l, found, rfl⟩,
      (isPrefixOf_ownerLockKey _ _ _).mpr rfl⟩, ?_⟩
    rw [ofBigEndian_drop_ownerLockKey, Nat.mod_eq_of_lt (by omega)]

/-- The index lists an owner's ids in strictly increasing order: the owner's keys differ only in
their last 8 bytes, which sort as the ids. -/
theorem pairwise_lockIdsByOwner (indexed : Indexed st) (consistent : st.Consistent)
    (fits : st.nextLockId ≤ 2 ^ 64) (owner : Address) :
    (st.lockIdsByOwner owner).Pairwise (· < ·) := by
  have sorted := pairwise_lt_inByteOrder (fun key => key) (by simpa using indexed.distinctKeys)
  rw [lockIdsByOwner, List.pairwise_map]
  refine (sorted.filter _).imp_of_mem fun {a b} memA memB lt => ?_
  rw [List.mem_filter, (perm_inByteOrder _ _).mem_iff] at memA memB
  obtain ⟨ida, -, -, -, smallA, rfl⟩ := indexed.ownerKey_of_mem consistent fits memA.1 memA.2
  obtain ⟨idb, -, -, -, smallB, rfl⟩ := indexed.ownerKey_of_mem consistent fits memB.1 memB.2
  rw [ofBigEndian_drop_ownerLockKey, ofBigEndian_drop_ownerLockKey, Nat.mod_eq_of_lt smallA,
    Nat.mod_eq_of_lt smallB]
  exact (ownerLockKey_lt_ownerLockKey_iff owner smallA smallB).mp lt

theorem mem_allLocks (indexed : Indexed st) (l : Lock) :
    l ∈ st.allLocks ↔ ∃ id, st.locks.get? id = some l := by
  simp only [allLocks, List.mem_map, (perm_inByteOrder _ _).mem_iff]
  constructor
  · rintro ⟨⟨id, l⟩, member, rfl⟩
    exact ⟨id, (Table.mem_entries_iff indexed.distinctIds id l).mp member⟩
  · rintro ⟨id, found⟩
    exact ⟨(id, l), (Table.mem_entries_iff indexed.distinctIds id l).mpr found, rfl⟩

/-- The store lists its locks in strictly increasing id order: each is listed under the key of
its own id, and distinct ids below 2^64 have distinct keys that sort as the ids. -/
theorem pairwise_allLocks (indexed : Indexed st) (consistent : st.Consistent)
    (fits : st.nextLockId ≤ 2 ^ 64) : st.allLocks.Pairwise fun a b => a.id < b.id := by
  have distinctKeys : ((st.locks.entries.map Prod.fst).map lockKey).Nodup := by
    refine indexed.distinctIds.map_on fun a memA b memB same => ?_
    obtain ⟨entryA, inA, rfl⟩ := List.mem_map.mp memA
    obtain ⟨entryB, inB, rfl⟩ := List.mem_map.mp memB
    have smallA := (indexed.entry_of_mem consistent fits inA).2
    have smallB := (indexed.entry_of_mem consistent fits inB).2
    exact bigEndian_inj (lt_of_lt_of_eq smallA (by norm_num)) (lt_of_lt_of_eq smallB (by norm_num))
      same
  rw [List.map_map] at distinctKeys
  have sorted := pairwise_lt_inByteOrder (fun entry : Nat × Lock => lockKey entry.1) distinctKeys
  rw [allLocks, List.pairwise_map]
  refine sorted.imp_of_mem fun {a b} memA memB lt => ?_
  obtain ⟨keyedA, smallA⟩ :=
    indexed.entry_of_mem consistent fits ((perm_inByteOrder _ _).subset memA)
  obtain ⟨keyedB, smallB⟩ :=
    indexed.entry_of_mem consistent fits ((perm_inByteOrder _ _).subset memB)
  rw [keyedA, keyedB]
  exact (lockKey_lt_lockKey_iff smallA smallB).mp lt

theorem filterMap_lockIdsByOwner (indexed : Indexed st) (consistent : st.Consistent)
    (fits : st.nextLockId ≤ 2 ^ 64) (owner : Address) :
    (st.lockIdsByOwner owner).filterMap st.locks.get? = st.allLocks.filter (·.owner = owner) := by
  have byId : ∀ {ls : List Lock}, ls.Pairwise (fun a b => a.id < b.id) → ls.Nodup :=
    fun sorted => sorted.imp fun lt same => by subst same; exact Nat.lt_irrefl _ lt
  have listed :
      ((st.lockIdsByOwner owner).filterMap st.locks.get?).Pairwise fun a b => a.id < b.id :=
    (indexed.pairwise_lockIdsByOwner consistent fits owner).filterMap _
      fun a a' lt l found l' found' => by
        rw [consistent.keyed _ _ found, consistent.keyed _ _ found']
        exact lt
  have filtered :=
    (indexed.pairwise_allLocks consistent fits).filter fun l => decide (l.owner = owner)
  -- two lists of distinct locks, both strictly increasing in id, are equal once they have the
  -- same members
  refine List.Perm.eq_of_pairwise
    (fun a b _ _ ab ba => absurd (Nat.lt_trans ab ba) (Nat.lt_irrefl _)) listed filtered
    ((List.perm_ext_iff_of_nodup (byId listed) (byId filtered)).mpr fun l => ?_)
  simp only [List.mem_filterMap, List.mem_filter, indexed.mem_allLocks,
    indexed.mem_lockIdsByOwner consistent fits, decide_eq_true_eq]
  constructor
  · rintro ⟨id, ⟨l', found', owned⟩, found⟩
    rw [found'] at found
    cases found
    exact ⟨⟨id, found'⟩, owned⟩
  · rintro ⟨⟨id, found⟩, owned⟩
    exact ⟨id, ⟨l, found, owned⟩, found⟩

end Indexed

end Store

namespace Action

theorem run_mapM_summary {s : Session} {ids : List Nat}
    (stored : ∀ id ∈ ids, (s.engine.store.locks.get? id).isSome) :
    (ids.mapM fun id => do return (← loadLock id).summary).run s =
      .ok ((ids.filterMap s.engine.store.locks.get?).map Lock.summary) s := by
  induction ids with
  | nil => rfl
  | cons id rest ih =>
    obtain ⟨l, found⟩ := Option.isSome_iff_exists.mp (stored id List.mem_cons_self)
    have restStored : ∀ id ∈ rest, (s.engine.store.locks.get? id).isSome :=
      fun id member => stored id (List.mem_cons_of_mem _ member)
    simp only [List.mapM_cons, EStateM.run_bind, run_loadLock, found, EStateM.run_pure,
      ih restStored, List.filterMap_cons, List.map_cons]

theorem run_viewData {s : Session} (owner : Address)
    (stored : ∀ id ∈ s.engine.store.lockIdsByOwner owner,
      (s.engine.store.locks.get? id).isSome) :
    (viewData owner).run s =
      .ok (((s.engine.store.lockIdsByOwner owner).filterMap s.engine.store.locks.get?).map
        Lock.summary) s := by
  simp only [viewData, EStateM.run_bind, run_store]
  exact run_mapM_summary stored

end Action

/-- The owner index is consistent. Along every run, while lock ids fit the 64 bits they are
written in, the index lists for each owner the ids of exactly that owner's stored locks, in
strictly increasing order; the store lists every stored lock once, in increasing id order; and
the owner's view is, without changing the session, the summaries of exactly the owner's locks in
that order. -/
theorem ownerIndex_consistent {allowed : Operation → Session → Prop} {s : Session}
    (reached : Reachable allowed s) (fits : s.engine.store.nextLockId ≤ 2 ^ 64)
    (owner : Address) :
    ((s.engine.store.lockIdsByOwner owner).Pairwise (· < ·) ∧
      ∀ id, id ∈ s.engine.store.lockIdsByOwner owner ↔
        ∃ l, s.engine.store.locks.get? id = some l ∧ l.owner = owner) ∧
    (s.engine.store.allLocks.Pairwise (fun a b => a.id < b.id) ∧
      ∀ l, l ∈ s.engine.store.allLocks ↔ ∃ id, s.engine.store.locks.get? id = some l) ∧
    (Action.viewData owner).run s =
      .ok ((s.engine.store.allLocks.filter (·.owner = owner)).map Lock.summary) s := by
  have indexed := indexed_of_reachable reached
  have consistent := consistent_of_reachable reached
  have listed := indexed.mem_lockIdsByOwner consistent fits owner
  refine ⟨⟨indexed.pairwise_lockIdsByOwner consistent fits owner, listed⟩,
    ⟨indexed.pairwise_allLocks consistent fits, indexed.mem_allLocks⟩, ?_⟩
  rw [Action.run_viewData owner fun id member => ?_,
    indexed.filterMap_lockIdsByOwner consistent fits]
  obtain ⟨l, found, -⟩ := (listed id).mp member
  simp [found]

/-- After one owner locks tokens once, that owner's view is read through the index. -/
theorem ownerIndex_consistent_ownerLockRun :
    Reachable (fun _ _ => True) ownerLockRun ∧ ownerLockRun.engine.store.nextLockId ≤ 2 ^ 64 ∧
      (((ownerLockRun.engine.store.lockIdsByOwner lockOwner).Pairwise (· < ·) ∧
        ∀ id, id ∈ ownerLockRun.engine.store.lockIdsByOwner lockOwner ↔
          ∃ l, ownerLockRun.engine.store.locks.get? id = some l ∧ l.owner = lockOwner) ∧
      (ownerLockRun.engine.store.allLocks.Pairwise (fun a b => a.id < b.id) ∧
        ∀ l, l ∈ ownerLockRun.engine.store.allLocks ↔
          ∃ id, ownerLockRun.engine.store.locks.get? id = some l) ∧
      (Action.viewData lockOwner).run ownerLockRun =
        .ok ((ownerLockRun.engine.store.allLocks.filter (·.owner = lockOwner)).map Lock.summary)
          ownerLockRun) := by
  have reached : Reachable (fun _ _ => True) ownerLockRun :=
    .step (.step (.step (.step (.start {} rfl) trivial) trivial) trivial) trivial
  have fits : ownerLockRun.engine.store.nextLockId ≤ 2 ^ 64 := by decide +kernel
  exact ⟨reached, fits, ownerIndex_consistent reached fits lockOwner⟩

end Escrow
