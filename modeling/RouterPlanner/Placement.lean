import RouterPlanner.Catalog
import Mathlib.Data.String.Basic

/-!
# The workers that hold every shard

A router query runs on one worker, which must hold a placement of every shard the query
touches. `WorkersContainingAllShards` starts from the finalized placements of the first
shard and intersects with each next shard's, matching on node name and port
(`IntersectPlacementList`); it stops as soon as the running list is empty.

**Theorem (`workersContainingAllShards_nodes`).** When every pruned list has at most one shard
and some list has one, a node (name and port) appears in the result exactly when it holds a
finalized placement of every shard, provided node names fit in `WORKER_LENGTH` bytes (beyond it
`strncmp` compares only a prefix). `strncmp` compares UTF-8 bytes, and the encoding is injective
(`toUTF8_inj`), so names that fit match exactly when they are equal. The stop changes nothing
(`workersContainingAllShards_eq`), and no node appears twice when no shard has two placements
on one node (`workersContainingAllShards_nodup`). The placements themselves are those of the
last shard read (`intersectAllShards_mem_last`): `IntersectPlacementList` keeps the right-hand
placement of each matching pair.
-/

namespace RouterPlanner

/-- The node of a placement: its name and port. -/
def ShardPlacement.node (placement : ShardPlacement) : String × Nat :=
  (placement.nodeName, placement.nodePort)

/-- `strncmp(left, right, n) == 0`: the first `n` bytes of the two names' UTF-8 encodings
agree. A name holds no NUL byte, so `strncmp` reads each name to its end or to `n` bytes. -/
def strncmpEq (left right : String) (n : Nat) : Bool :=
  left.toUTF8.data.toList.take n == right.toUTF8.data.toList.take n

/-- `IntersectPlacementList`: for each left placement, the right placements on its node. -/
def intersectPlacementList (workerLength : Nat) (lhsPlacementList rhsPlacementList :
    List ShardPlacement) : List ShardPlacement :=
  lhsPlacementList.flatMap fun lhsPlacement =>
    rhsPlacementList.filter fun rhsPlacement =>
      rhsPlacement.nodePort == lhsPlacement.nodePort &&
        strncmpEq rhsPlacement.nodeName lhsPlacement.nodeName workerLength

/-- The loop of `WorkersContainingAllShards`, from the flag `firstShard` and the running
`currentPlacementList`. -/
def workersContainingAllShardsLoop (env : Env) :
    Bool → List ShardPlacement → List (List ShardInterval) → List ShardPlacement
  | _, currentPlacementList, [] => currentPlacementList
  | firstShard, currentPlacementList, [] :: rest =>
    workersContainingAllShardsLoop env firstShard currentPlacementList rest
  | firstShard, currentPlacementList, (shardInterval :: _) :: rest =>
    let newPlacementList := env.finalizedShardPlacementList shardInterval.shardId
    let currentPlacementList :=
      if firstShard then newPlacementList
      else intersectPlacementList env.workerLength currentPlacementList newPlacementList
    if currentPlacementList.isEmpty then currentPlacementList
    else workersContainingAllShardsLoop env false currentPlacementList rest

/-- `WorkersContainingAllShards`. -/
def workersContainingAllShards (env : Env) (prunedShardIntervalsList : List (List ShardInterval)) :
    List ShardPlacement :=
  workersContainingAllShardsLoop env true [] prunedShardIntervalsList

/-- The same loop without the stop on an empty list: the full intersection. -/
def intersectAllShards (env : Env) :
    Bool → List ShardPlacement → List (List ShardInterval) → List ShardPlacement
  | _, currentPlacementList, [] => currentPlacementList
  | firstShard, currentPlacementList, [] :: rest =>
    intersectAllShards env firstShard currentPlacementList rest
  | firstShard, currentPlacementList, (shardInterval :: _) :: rest =>
    let newPlacementList := env.finalizedShardPlacementList shardInterval.shardId
    intersectAllShards env false
      (if firstShard then newPlacementList
        else intersectPlacementList env.workerLength currentPlacementList newPlacementList) rest

/-- A node holds a finalized placement of the shard. -/
def HostsShard (env : Env) (node : String × Nat) (shardId : Nat) : Prop :=
  ∃ placement ∈ env.finalizedShardPlacementList shardId, placement.node = node

/-- Every finalized placement's node name fits in a `char[WORKER_LENGTH]` buffer with its
terminating NUL: its UTF-8 encoding is shorter than `WORKER_LENGTH` bytes. -/
def NamesFit (env : Env) : Prop :=
  ∀ shardId, ∀ placement ∈ env.finalizedShardPlacementList shardId,
    placement.nodeName.utf8ByteSize < env.workerLength

/-- No shard has two finalized placements on one node. -/
def PlacementsDistinct (env : Env) : Prop :=
  ∀ shardId, ((env.finalizedShardPlacementList shardId).map ShardPlacement.node).Nodup

/-! ## UTF-8 bytes

`strncmp` reads a name's bytes. Each byte of `utf8EncodeChar` is arithmetic on the code point
(`utf8EncodeChar_toNat`), the first byte tells how many follow, and so the encoding of a string
is injective (`toUTF8_inj`). -/

/-- The bytes of a code point's UTF-8 encoding, as numbers. -/
def utf8Bytes (codePoint : Nat) : List Nat :=
  if codePoint ≤ 0x7f then [codePoint]
  else if codePoint ≤ 0x7ff then [0xc0 + codePoint / 64 % 32, 0x80 + codePoint % 64]
  else if codePoint ≤ 0xffff then
    [0xe0 + codePoint / 4096 % 16, 0x80 + codePoint / 64 % 64, 0x80 + codePoint % 64]
  else
    [0xf0 + codePoint / 262144 % 8, 0x80 + codePoint / 4096 % 64, 0x80 + codePoint / 64 % 64,
      0x80 + codePoint % 64]

/-- Under a tag whose low `k` bits are clear, the low `k` bits of `n` add to the tag. -/
theorem and_or_tag (n k t : Nat) : n &&& 2 ^ k - 1 ||| 2 ^ k * t = 2 ^ k * t + n % 2 ^ k := by
  rw [Nat.and_pow_two_sub_one_eq_mod, Nat.or_comm,
    ← Nat.mul_add_lt_is_or (Nat.mod_lt _ (Nat.two_pow_pos k))]

/-- The masks `utf8EncodeChar` applies: the low bits of a byte under a lead or continuation tag. -/
theorem toNat_tagged (x : UInt8) :
    (x &&& 0x3f ||| 0x80).toNat = 0x80 + x.toNat % 64 ∧
    (x &&& 0x1f ||| 0xc0).toNat = 0xc0 + x.toNat % 32 ∧
    (x &&& 0x0f ||| 0xe0).toNat = 0xe0 + x.toNat % 16 ∧
    (x &&& 0x07 ||| 0xf0).toNat = 0xf0 + x.toNat % 8 :=
  ⟨and_or_tag x.toNat 6 2, and_or_tag x.toNat 5 6, and_or_tag x.toNat 4 14, and_or_tag x.toNat 3 30⟩

theorem toNat_shiftRight (v s : UInt32) : (v >>> s).toNat = v.toNat / 2 ^ (s.toNat % 32) := by
  show (v.toBitVec >>> (s % 32 : UInt32).toBitVec.toNat).toNat = _
  rw [BitVec.toNat_ushiftRight, Nat.shiftRight_eq_div_pow]
  rfl

theorem utf8EncodeChar_toNat (c : Char) :
    (String.utf8EncodeChar c).map UInt8.toNat = utf8Bytes c.toNat := by
  have hle : ∀ n : UInt32, c.val ≤ n ↔ c.toNat ≤ n.toNat := fun _ => Iff.rfl
  have hv : c.val.toNat = c.toNat := rfl
  simp only [String.utf8EncodeChar, utf8Bytes, hle, UInt32.toNat_ofNat, UInt32.size, Nat.reduceMod]
  split_ifs <;>
    simp (disch := decide) only [List.map, toNat_tagged, UInt32.toUInt8_toNat, toNat_shiftRight,
      hv, UInt32.toNat_ofNat, UInt32.size, Nat.reduceMod, Nat.reducePow, Nat.mod_mod_of_dvd,
      List.cons.injEq, and_true]
  -- one byte: the code point itself, below 128
  omega

/-- The four lengths of an encoding, each with the code points it covers. -/
theorem utf8Bytes_cases (v : Nat) :
    v ≤ 0x7f ∧ utf8Bytes v = [v] ∨
    0x7f < v ∧ v ≤ 0x7ff ∧ utf8Bytes v = [0xc0 + v / 64 % 32, 0x80 + v % 64] ∨
    0x7ff < v ∧ v ≤ 0xffff ∧
      utf8Bytes v = [0xe0 + v / 4096 % 16, 0x80 + v / 64 % 64, 0x80 + v % 64] ∨
    0xffff < v ∧ utf8Bytes v =
      [0xf0 + v / 262144 % 8, 0x80 + v / 4096 % 64, 0x80 + v / 64 % 64, 0x80 + v % 64] := by
  unfold utf8Bytes
  split_ifs <;> simp only [true_and, and_true, true_or, or_true] <;> omega

/-- The lead byte fixes the length, and the bytes fix the code point. -/
theorem utf8Bytes_append_inj {v w : Nat} {l l' : List Nat} (hv : v < 0x110000)
    (hw : w < 0x110000) (h : utf8Bytes v ++ l = utf8Bytes w ++ l') : v = w ∧ l = l' := by
  have hvw : v = w := by
    rcases utf8Bytes_cases v with ⟨_, hv'⟩ | ⟨_, _, hv'⟩ | ⟨_, _, hv'⟩ | ⟨_, hv'⟩ <;>
    rcases utf8Bytes_cases w with ⟨_, hw'⟩ | ⟨_, _, hw'⟩ | ⟨_, _, hw'⟩ | ⟨_, hw'⟩ <;>
      rw [hv', hw'] at h <;> simp only [List.cons_append, List.nil_append, List.cons.injEq] at h <;>
      omega
  subst hvw
  exact ⟨rfl, List.append_cancel_left h⟩

theorem toNat_lt_unicodeBound (c : Char) : c.toNat < 0x110000 := by
  have hvalid := c.valid
  simp only [UInt32.isValidChar, Nat.isValidChar] at hvalid
  change c.val.toNat < _
  omega

theorem utf8EncodeChar_append_inj {c d : Char} {l l' : List UInt8}
    (h : String.utf8EncodeChar c ++ l = String.utf8EncodeChar d ++ l') : c = d ∧ l = l' := by
  have hmap := congrArg (List.map UInt8.toNat) h
  simp only [List.map_append, utf8EncodeChar_toNat] at hmap
  obtain ⟨hcd, hl⟩ :=
    utf8Bytes_append_inj (toNat_lt_unicodeBound c) (toNat_lt_unicodeBound d) hmap
  exact ⟨Char.ext (UInt32.ext hcd), List.map_injective_iff.mpr (fun _ _ => UInt8.ext) hl⟩

theorem utf8EncodeChar_ne_nil (c : Char) : String.utf8EncodeChar c ≠ [] := by
  rw [← List.length_pos, String.length_utf8EncodeChar]
  exact c.utf8Size_pos

theorem flatMap_utf8EncodeChar_inj :
    ∀ {cs ds : List Char}, cs.flatMap String.utf8EncodeChar = ds.flatMap String.utf8EncodeChar →
      cs = ds
  | [], [], _ => rfl
  | [], _ :: _, h | _ :: _, [], h => by simp [utf8EncodeChar_ne_nil] at h
  | c :: cs, d :: ds, h => by
    rw [List.flatMap_cons, List.flatMap_cons] at h
    obtain ⟨rfl, hrest⟩ := utf8EncodeChar_append_inj h
    rw [flatMap_utf8EncodeChar_inj hrest]

theorem length_toUTF8 (s : String) : s.toUTF8.data.toList.length = s.utf8ByteSize :=
  String.size_toUTF8 s

theorem toUTF8_inj {left right : String}
    (h : left.toUTF8.data.toList = right.toUTF8.data.toList) : left = right :=
  String.ext (flatMap_utf8EncodeChar_inj h)

/-! ## Intersecting two lists -/

theorem strncmpEq_iff {left right : String} {n : Nat} (hl : left.utf8ByteSize < n)
    (hr : right.utf8ByteSize < n) : strncmpEq left right n = true ↔ left = right := by
  rw [strncmpEq, beq_iff_eq, List.take_of_length_le (by rw [length_toUTF8]; omega),
    List.take_of_length_le (by rw [length_toUTF8]; omega)]
  exact ⟨toUTF8_inj, fun h => h ▸ rfl⟩

theorem mem_intersectPlacementList {workerLength : Nat} {lhs rhs : List ShardPlacement}
    (hl : ∀ p ∈ lhs, p.nodeName.utf8ByteSize < workerLength)
    (hr : ∀ p ∈ rhs, p.nodeName.utf8ByteSize < workerLength) (node : String × Nat) :
    node ∈ (intersectPlacementList workerLength lhs rhs).map ShardPlacement.node ↔
      node ∈ lhs.map ShardPlacement.node ∧ node ∈ rhs.map ShardPlacement.node := by
  simp only [intersectPlacementList, List.mem_map, List.mem_flatMap, List.mem_filter,
    Bool.and_eq_true, beq_iff_eq]
  constructor
  · rintro ⟨q, ⟨p, hp, hq, hport, hname⟩, rfl⟩
    rw [strncmpEq_iff (hr q hq) (hl p hp)] at hname
    exact ⟨⟨p, hp, by simp [ShardPlacement.node, hname, hport]⟩, q, hq, rfl⟩
  · rintro ⟨⟨p, hp, rfl⟩, q, hq, hqp⟩
    simp only [ShardPlacement.node, Prod.mk.injEq] at hqp
    refine ⟨q, ⟨p, hp, hq, hqp.2, ?_⟩, by simp [ShardPlacement.node, hqp.1, hqp.2]⟩
    rw [strncmpEq_iff (hr q hq) (hl p hp)]
    exact hqp.1

theorem intersectPlacementList_subset {workerLength : Nat} {lhs rhs : List ShardPlacement} :
    ∀ p ∈ intersectPlacementList workerLength lhs rhs, p ∈ rhs := by
  intro p hp
  simp only [intersectPlacementList, List.mem_flatMap, List.mem_filter] at hp
  obtain ⟨_, _, hp, _⟩ := hp
  exact hp

/-- On distinct right nodes, the nodes of the intersection are a sublist of the left ones. -/
theorem intersectPlacementList_sublist {workerLength : Nat} {rhs : List ShardPlacement}
    (hr : ∀ p ∈ rhs, p.nodeName.utf8ByteSize < workerLength)
    (hnodup : (rhs.map ShardPlacement.node).Nodup) :
    ∀ lhs : List ShardPlacement, (∀ p ∈ lhs, p.nodeName.utf8ByteSize < workerLength) →
      ((intersectPlacementList workerLength lhs rhs).map ShardPlacement.node).Sublist
        (lhs.map ShardPlacement.node)
  | [], _ => by simp [intersectPlacementList]
  | p :: lhs, hlhs => by
    rw [intersectPlacementList, List.flatMap_cons, List.map_append, List.map_cons]
    refine List.Sublist.append (?_ : List.Sublist _ [p.node])
      (intersectPlacementList_sublist hr hnodup lhs fun q hq => hlhs q (.tail _ hq))
    -- the right placements on `p`'s node are at most one, by distinct nodes
    set onNode := rhs.filter fun rhsPlacement =>
      rhsPlacement.nodePort == p.nodePort &&
        strncmpEq rhsPlacement.nodeName p.nodeName workerLength
    have hall : ∀ n ∈ onNode.map ShardPlacement.node, n = p.node := by
      simp only [onNode, List.mem_map, List.mem_filter, Bool.and_eq_true, beq_iff_eq]
      rintro n ⟨q, ⟨hq, hport, hname⟩, rfl⟩
      rw [strncmpEq_iff (hr q hq) (hlhs p (.head _))] at hname
      simp [ShardPlacement.node, hname, hport]
    have hnd : (onNode.map ShardPlacement.node).Nodup :=
      hnodup.sublist ((List.filter_sublist rhs).map _)
    rw [List.eq_replicate_iff.mpr ⟨rfl, hall⟩] at hnd ⊢
    rcases Nat.le_one_iff_eq_zero_or_eq_one.mp (List.nodup_replicate.mp hnd) with h | h <;>
      simp [h]

/-! ## The loop -/

/-- The shards the loop reads: the first of each non-empty pruned list. -/
def firstShards (prunedShardIntervalsList : List (List ShardInterval)) : List ShardInterval :=
  prunedShardIntervalsList.filterMap List.head?

@[simp] theorem firstShards_nil : firstShards [] = [] := rfl

@[simp] theorem firstShards_cons_nil (rest : List (List ShardInterval)) :
    firstShards ([] :: rest) = firstShards rest := rfl

@[simp] theorem firstShards_cons_cons (s : ShardInterval) (t : List ShardInterval)
    (rest : List (List ShardInterval)) :
    firstShards ((s :: t) :: rest) = s :: firstShards rest := rfl

theorem firstShards_eq_flatten :
    ∀ lists : List (List ShardInterval), (∀ l ∈ lists, l.length ≤ 1) →
      firstShards lists = lists.flatten
  | [], _ => rfl
  | [] :: rest, h => firstShards_eq_flatten rest fun l hl => h l (.tail _ hl)
  | [s] :: rest, h => congrArg (s :: ·) (firstShards_eq_flatten rest fun l hl => h l (.tail _ hl))
  | (_ :: _ :: _) :: _, h => absurd (h _ (.head _)) (by simp only [List.length_cons]; omega)

theorem intersectAllShards_false_nil (env : Env) :
    ∀ lists : List (List ShardInterval), intersectAllShards env false [] lists = []
  | [] => rfl
  | [] :: rest => intersectAllShards_false_nil env rest
  | (_ :: _) :: rest => intersectAllShards_false_nil env rest

/-- Every placement the loop keeps is one of the last shard it read: an intersection keeps the
right-hand placements. -/
theorem intersectAllShards_mem_last {env : Env} :
    ∀ (firstShard : Bool) (current : List ShardPlacement) (lists : List (List ShardInterval)),
      ∀ p ∈ intersectAllShards env firstShard current lists,
        p ∈ ((firstShards lists).getLast?.map fun s =>
          env.finalizedShardPlacementList s.shardId).getD current
  | _, _, [], _, h => h
  | firstShard, current, [] :: rest, p, h => intersectAllShards_mem_last firstShard current rest p h
  | firstShard, current, (s :: _) :: rest, p, h => by
    have ih := intersectAllShards_mem_last false _ rest p h
    rw [firstShards_cons_cons]
    cases hrest : firstShards rest with
    | nil =>
      rw [hrest] at ih
      show p ∈ env.finalizedShardPlacementList s.shardId
      cases firstShard
      · exact intersectPlacementList_subset p ih
      · exact ih
    | cons x xs =>
      rw [hrest] at ih
      rwa [List.getLast?_cons_cons]

/-- **Stopping early gives the full intersection.** -/
theorem workersContainingAllShardsLoop_eq (env : Env) :
    ∀ (firstShard : Bool) (currentPlacementList : List ShardPlacement)
      (lists : List (List ShardInterval)),
      workersContainingAllShardsLoop env firstShard currentPlacementList lists =
        intersectAllShards env firstShard currentPlacementList lists
  | _, _, [] => rfl
  | firstShard, current, [] :: rest => workersContainingAllShardsLoop_eq env firstShard current rest
  | _, _, (_ :: _) :: rest => by
    have key : ∀ next, (if next.isEmpty then next
        else workersContainingAllShardsLoop env false next rest) =
          intersectAllShards env false next rest := by
      intro next
      split
      · rename_i hempty
        rw [List.isEmpty_iff.mp hempty, intersectAllShards_false_nil]
      · exact workersContainingAllShardsLoop_eq env false next rest
    simp only [workersContainingAllShardsLoop, intersectAllShards]
    exact key _

section
variable {env : Env} (hfit : NamesFit env)
include hfit

theorem intersectAllShards_false_nodes :
    ∀ (current : List ShardPlacement) (lists : List (List ShardInterval)),
      (∀ p ∈ current, p.nodeName.utf8ByteSize < env.workerLength) → ∀ node,
      node ∈ (intersectAllShards env false current lists).map ShardPlacement.node ↔
        node ∈ current.map ShardPlacement.node ∧
          ∀ s ∈ firstShards lists, HostsShard env node s.shardId
  | current, [], _, node => iff_self_and.mpr fun _ _ h => absurd h (List.not_mem_nil _)
  | current, [] :: rest, hc, node => intersectAllShards_false_nodes current rest hc node
  | current, (s :: _) :: rest, hc, node => by
    simp only [intersectAllShards, Bool.false_eq_true, if_false, firstShards_cons_cons,
      List.forall_mem_cons]
    rw [intersectAllShards_false_nodes _ rest
      (fun p hp => hfit _ p (intersectPlacementList_subset p hp)),
      mem_intersectPlacementList hc (hfit _), and_assoc]
    simp only [HostsShard, List.mem_map]

theorem intersectAllShards_true_nodes :
    ∀ (lists : List (List ShardInterval)) (node : String × Nat),
      node ∈ (intersectAllShards env true [] lists).map ShardPlacement.node ↔
        firstShards lists ≠ [] ∧ ∀ s ∈ firstShards lists, HostsShard env node s.shardId
  | [], node => by simp [intersectAllShards]
  | [] :: rest, node => intersectAllShards_true_nodes rest node
  | (s :: _) :: rest, node => by
    simp only [intersectAllShards, if_true, firstShards_cons_cons, ne_eq, reduceCtorEq,
      not_false_eq_true, List.forall_mem_cons, true_and]
    rw [intersectAllShards_false_nodes hfit _ rest (hfit _)]
    simp only [HostsShard, List.mem_map]

theorem intersectAllShards_false_nodup (hdistinct : PlacementsDistinct env) :
    ∀ (current : List ShardPlacement) (lists : List (List ShardInterval)),
      (∀ p ∈ current, p.nodeName.utf8ByteSize < env.workerLength) →
      (current.map ShardPlacement.node).Nodup →
      ((intersectAllShards env false current lists).map ShardPlacement.node).Nodup
  | _, [], _, hnd => hnd
  | current, [] :: rest, hc, hnd => intersectAllShards_false_nodup hdistinct current rest hc hnd
  | current, (_ :: _) :: rest, hc, hnd =>
    intersectAllShards_false_nodup hdistinct _ rest
      (fun p hp => hfit _ p (intersectPlacementList_subset p hp))
      (hnd.sublist (intersectPlacementList_sublist (hfit _) (hdistinct _) current hc))

/-- **The nodes of `WorkersContainingAllShards`** are those holding every shard. -/
theorem workersContainingAllShards_nodes (lists : List (List ShardInterval))
    (hone : ∀ l ∈ lists, l.length ≤ 1) (hsome : lists.flatten ≠ []) (node : String × Nat) :
    node ∈ (workersContainingAllShards env lists).map ShardPlacement.node ↔
      ∀ s ∈ lists.flatten, HostsShard env node s.shardId := by
  rw [workersContainingAllShards, workersContainingAllShardsLoop_eq,
    intersectAllShards_true_nodes hfit, firstShards_eq_flatten lists hone]
  exact and_iff_right hsome

theorem workersContainingAllShards_eq_nil (lists : List (List ShardInterval))
    (hone : ∀ l ∈ lists, l.length ≤ 1) (hsome : lists.flatten ≠ []) :
    workersContainingAllShards env lists = [] ↔
      ¬∃ node, ∀ s ∈ lists.flatten, HostsShard env node s.shardId := by
  have hnodes := workersContainingAllShards_nodes hfit lists hone hsome
  constructor
  · rintro hnil ⟨node, hnode⟩
    have := (hnodes node).mpr hnode
    rw [hnil] at this
    exact List.not_mem_nil _ this
  · exact fun hnone => List.eq_nil_iff_forall_not_mem.mpr fun p hp =>
      hnone ⟨p.node, (hnodes p.node).mp (List.mem_map_of_mem _ hp)⟩

theorem workersContainingAllShards_nodup (hdistinct : PlacementsDistinct env)
    (lists : List (List ShardInterval)) :
    ((workersContainingAllShards env lists).map ShardPlacement.node).Nodup := by
  rw [workersContainingAllShards, workersContainingAllShardsLoop_eq]
  match lists with
  | [] => exact List.nodup_nil
  | [] :: rest =>
    -- an empty list is skipped with the flag still set
    have := workersContainingAllShards_nodup hdistinct rest
    rwa [workersContainingAllShards, workersContainingAllShardsLoop_eq] at this
  | (_ :: _) :: rest =>
    exact intersectAllShards_false_nodup hfit hdistinct _ rest (hfit _) (hdistinct _)

end

end RouterPlanner
