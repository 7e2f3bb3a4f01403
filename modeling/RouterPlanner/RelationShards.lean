import RouterPlanner.Catalog
import Mathlib.Data.List.Sort

/-!
# One shard per relation

`PlanRouterQuery` builds one `RelationShard` for every relation restriction that pruned to a
shard. The same table may be referenced twice (a self-join); the query is routable only if
both references name the same shard. `RelationPrunesToMultipleShards` checks this by sorting
the list and comparing neighbours.

**Theorem (`relationPrunesToMultipleShards_iff`).** For every list, the neighbour check is
true exactly when two entries name the same relation and different shards. The sort groups
the entries of one relation together, and within a group whose shards are not all equal two
neighbours differ.
-/

namespace RouterPlanner

/-- Two entries send one relation to different shards. -/
def RelationShard.Conflict (a b : RelationShard) : Prop :=
  a.relationId = b.relationId ∧ a.shardId ≠ b.shardId

/-- Modelled from the spec: `CompareRelationShards`, which is not under src/. It orders by
`relationId`, then by `shardId`. -/
def compareRelationShards (left right : RelationShard) : Int :=
  if left.relationId > right.relationId then 1
  else if left.relationId < right.relationId then -1
  else if left.shardId > right.shardId then 1
  else if left.shardId < right.shardId then -1
  else 0

/-- Modelled from the spec: `SortList`, which is not under src/. It sorts a list by a
comparator; the comparator here is zero only on equal entries, so every sort gives this order. -/
def sortList (comparator : RelationShard → RelationShard → Int) (pointerList : List RelationShard) :
    List RelationShard :=
  pointerList.insertionSort fun left right => comparator left right ≤ 0

/-- The loop of `RelationPrunesToMultipleShards`, `previousRelationShard` being the entry
before. -/
def relationShardScan : Option RelationShard → List RelationShard → Bool
  | _, [] => false
  | previousRelationShard, relationShard :: rest =>
    if previousRelationShard.any fun previous =>
        relationShard.relationId == previous.relationId &&
          relationShard.shardId != previous.shardId then true
    else relationShardScan (some relationShard) rest

/-- `RelationPrunesToMultipleShards`. -/
def relationPrunesToMultipleShards (relationShardList : List RelationShard) : Bool :=
  relationShardScan none (sortList compareRelationShards relationShardList)

/-! ## The sort order -/

theorem compareRelationShards_nonpos (a b : RelationShard) :
    compareRelationShards a b ≤ 0 ↔
      a.relationId < b.relationId ∨ (a.relationId = b.relationId ∧ a.shardId ≤ b.shardId) := by
  unfold compareRelationShards
  split_ifs <;> omega

/-- The order `SortList` sorts by. -/
def relationShardLe (a b : RelationShard) : Prop := compareRelationShards a b ≤ 0

instance : DecidableRel relationShardLe := fun a b =>
  inferInstanceAs (Decidable (compareRelationShards a b ≤ 0))

theorem relationShardLe_trans {a b c : RelationShard} (hab : relationShardLe a b)
    (hbc : relationShardLe b c) : relationShardLe a c := by
  simp only [relationShardLe, compareRelationShards_nonpos] at *
  omega

theorem relationShardLe_total (a b : RelationShard) :
    relationShardLe a b ∨ relationShardLe b a := by
  simp only [relationShardLe, compareRelationShards_nonpos]
  omega

instance : IsTrans RelationShard relationShardLe := ⟨fun _ _ _ => relationShardLe_trans⟩

instance : IsTotal RelationShard relationShardLe := ⟨relationShardLe_total⟩

theorem sortList_eq (l : List RelationShard) :
    sortList compareRelationShards l = l.insertionSort relationShardLe := rfl

theorem sortList_sorted (l : List RelationShard) :
    (sortList compareRelationShards l).Pairwise relationShardLe :=
  List.sorted_insertionSort relationShardLe l

/-! ## Neighbours and pairs -/

/-- Sorted, the entries between two entries of one relation belong to it too. -/
theorem relationId_squeeze {a b c : RelationShard} (hab : relationShardLe a b)
    (hbc : relationShardLe b c) (hac : a.relationId = c.relationId) :
    b.relationId = a.relationId := by
  simp only [relationShardLe, compareRelationShards_nonpos] at hab hbc
  omega

theorem relationShardScan_some_iff (x : RelationShard) (l : List RelationShard)
    (hs : (x :: l).Pairwise relationShardLe) :
    relationShardScan (some x) l = true ↔
      ∃ a ∈ x :: l, ∃ b ∈ x :: l, RelationShard.Conflict a b := by
  induction l generalizing x with
  | nil =>
    simp only [relationShardScan, Bool.false_eq_true, false_iff, not_exists, not_and,
      List.mem_singleton]
    rintro a rfl b rfl ⟨-, h⟩
    exact h rfl
  | cons y l ih =>
    have hs' := List.pairwise_cons.mp hs
    by_cases hxy : RelationShard.Conflict y x
    · have hyes : (y.relationId == x.relationId && y.shardId != x.shardId) = true := by
        simpa [RelationShard.Conflict] using hxy
      simp only [relationShardScan, Option.any_some, hyes, if_true, true_iff]
      exact ⟨y, by simp, x, by simp, hxy⟩
    · have hnot : (y.relationId == x.relationId && y.shardId != x.shardId) = false := by
        simpa [RelationShard.Conflict] using hxy
      simp only [relationShardScan, Option.any_some, hnot, Bool.false_eq_true, if_false]
      rw [ih y hs'.2]
      refine ⟨fun ⟨a, ha, b, hb, h⟩ => ⟨a, .tail _ ha, b, .tail _ hb, h⟩, ?_⟩
      rintro ⟨a, ha, b, hb, hc⟩
      -- a conflict with `x` moves to `y`, which lies between `x` and the other entry
      have hmove : ∀ c ∈ y :: l, c.relationId = x.relationId → c.shardId ≠ x.shardId →
          ∃ a ∈ y :: l, ∃ b ∈ y :: l, RelationShard.Conflict a b := by
        intro c hc hrel hshard
        rcases List.mem_cons.mp hc with rfl | hcl
        · exact absurd ⟨hrel, hshard⟩ hxy
        have hyx := relationId_squeeze (hs'.1 y (.head _)) (List.pairwise_cons.mp hs'.2 |>.1 c hcl)
          hrel.symm
        have hshard' : y.shardId = x.shardId := by
          by_contra hne
          exact hxy ⟨hyx, hne⟩
        exact ⟨y, .head _, c, hc, hyx.trans hrel.symm, hshard' ▸ hshard.symm⟩
      rcases List.mem_cons.mp ha with rfl | ha' <;> rcases List.mem_cons.mp hb with rfl | hb'
      · exact absurd rfl hc.2
      · exact hmove b hb' hc.1.symm (Ne.symm hc.2)
      · exact hmove a ha' hc.1 hc.2
      · exact ⟨a, ha', b, hb', hc⟩

theorem relationShardScan_none_iff (l : List RelationShard)
    (hs : l.Pairwise relationShardLe) :
    relationShardScan none l = true ↔ ∃ a ∈ l, ∃ b ∈ l, RelationShard.Conflict a b := by
  cases l with
  | nil =>
    simp only [relationShardScan, Bool.false_eq_true, List.not_mem_nil, false_and, exists_false]
  | cons x l =>
    simpa only [relationShardScan, Option.any_none, Bool.false_eq_true, ↓reduceIte, List.mem_cons,
      exists_eq_or_imp] using relationShardScan_some_iff x l hs

/-- **The neighbour check is the all-pairs check.** -/
theorem relationPrunesToMultipleShards_iff (relationShardList : List RelationShard) :
    relationPrunesToMultipleShards relationShardList = true ↔
      ∃ a ∈ relationShardList, ∃ b ∈ relationShardList,
        a.relationId = b.relationId ∧ a.shardId ≠ b.shardId := by
  have hperm := List.perm_insertionSort relationShardLe relationShardList
  rw [relationPrunesToMultipleShards,
    relationShardScan_none_iff _ (sortList_sorted relationShardList)]
  simp only [sortList_eq, hperm.mem_iff, RelationShard.Conflict]

/-- **Neighbours after the sort, or all pairs.** `RelationPrunesToMultipleShards` is the
all-pairs check, for every list. -/
theorem relationPrunesToMultipleShards_eq_allPairs (relationShardList : List RelationShard) :
    (relationPrunesToMultipleShards relationShardList = true ↔
      ∃ a ∈ relationShardList, ∃ b ∈ relationShardList,
        a.relationId = b.relationId ∧ a.shardId ≠ b.shardId) ∧
    relationPrunesToMultipleShards relationShardList =
      relationShardList.any fun a => relationShardList.any fun b =>
        a.relationId == b.relationId && a.shardId != b.shardId := by
  refine ⟨relationPrunesToMultipleShards_iff relationShardList, Bool.eq_iff_iff.mpr ?_⟩
  simp only [relationPrunesToMultipleShards_iff, ne_eq, List.any_eq_true, Bool.and_eq_true,
    beq_iff_eq, bne_iff_ne]

end RouterPlanner
