import Licensing.Proofs.Registry.Entries
/-!
# Indexes and searches

An index may be filled entry by entry, so that under one key only the first entry is ever held.  Looking a text up there
comes to the same as looking it up in the list of all entries, and both come to a search through the registry for the
first entry that is equal to the text but for the case of ASCII letters (`find?_index_eq_search`).
-/
namespace Licensing
namespace Registry

/-- An entry whose key is already taken is left out. -/
def Index.keep (ix : Index) (i : Text) : Index :=
  if (ix.lookup i.lower).isSome then ix else ix ++ [(i.lower, i)]

/-- The index with at most one entry under each key. -/
def filled (ids : List Text) : Index := ids.foldl Index.keep []

theorem Index.lookup_keep (ix : Index) (i k : Text) :
    (ix.keep i).lookup k = (ix.lookup k).or (if i.lower = k then some i else none) := by
  unfold keep
  by_cases hk : i.lower = k
  · subst hk
    cases h : ix.lookup i.lower <;> simp [h, List.lookup_append]
  · have hk' : (k == i.lower) = false := beq_eq_false_iff_ne.2 (Ne.symm hk)
    rw [if_neg hk]
    split <;> simp [hk', List.lookup_append]

/-- By induction on the entries that are still to come, from any index. -/
theorem Index.lookup_foldl_keep (k : Text) : ∀ (ids : List Text) (ix : Index),
    (ids.foldl keep ix).lookup k = (ix.lookup k).or (ids.find? fun i => i.lower = k)
  | [], ix => by simp
  | i :: ids, ix => by
    rw [List.foldl_cons, lookup_foldl_keep k ids, lookup_keep, List.find?_cons]
    by_cases hk : i.lower = k <;> simp [hk]

theorem lookup_filled (k : Text) (ids : List Text) : (filled ids).lookup k = (index ids).lookup k := by
  rw [filled, Index.lookup_foldl_keep, lookup_index, List.lookup_nil, Option.none_or]

theorem Index.nodup_keep {ix : Index} (h : (ix.map Prod.fst).Nodup) (i : Text) : ((ix.keep i).map Prod.fst).Nodup := by
  unfold keep
  split
  · exact h
  · rename_i hnew
    have hfresh : i.lower ∉ ix.map Prod.fst := by
      intro hm
      obtain ⟨p, hp, hkey⟩ := List.mem_map.1 hm
      exact hnew (List.lookup_isSome_iff.2 ⟨p, hp, by simp [hkey]⟩)
    rw [List.map_append, List.nodup_append]
    refine ⟨h, by simp, fun a ha b hb hab => hfresh ?_⟩
    have hb' : b = i.lower := List.mem_singleton.1 hb
    rwa [← hb', ← hab]

theorem Index.nodup_foldl_keep : ∀ (ids : List Text) {ix : Index}, (ix.map Prod.fst).Nodup →
    ((ids.foldl keep ix).map Prod.fst).Nodup
  | [], _, h => h
  | i :: ids, _, h => nodup_foldl_keep ids (nodup_keep h i)

/-- **A lookup in an index is a search through its registry.**  For any list of ASCII texts, whatever it repeats, and
any text, an index finds the first entry that is equal to the text but for the case of ASCII letters, and so does the
index that holds only the first entry under each key.  A text outside ASCII is not found, and an entry that is found is
found again under each of its spellings. -/
theorem find?_index_eq_search {ids : List Text} (hids : ∀ i ∈ ids, i.isAscii = true) (t : Text) :
    (index ids).find? t = (ids.find? fun i => i.folded = t.folded) ∧
    (filled ids).find? t = (index ids).find? t ∧ ((filled ids).map Prod.fst).Nodup ∧
    (t.isAscii = false → (index ids).find? t = none) ∧
    ∀ n s, (index ids).find? t = some n → s.folded = n.folded → (index ids).find? s = some n := by
  refine ⟨find?_index hids t, ?_, Index.nodup_foldl_keep ids List.nodup_nil, fun ht => ?_, fun n s hn hs => ?_⟩
  · rw [Index.find?, Index.find?, lookup_filled]
  · rw [Index.find?, if_neg (Bool.eq_false_iff.1 ht)]
  · rw [find?_index hids] at hn ⊢
    have hfolded : n.folded = t.folded := by simpa using List.find?_some hn
    rw [hs, hfolded, hn]

/-- The first of two clashing entries is found, and not even for a letter that has a small `k` for its lower case. -/
theorem find?_index_eq_search_clash :
    let ids : List Text := ["Ksh".toList, "KSH".toList, "MIT".toList]
    let kelvin : Text := "\u212Ash".toList
    (∀ i ∈ ids, i.isAscii = true) ∧
      (index ids).find? "kSH".toList = some "Ksh".toList ∧ (index ids).find? "KSH".toList = some "Ksh".toList ∧
      kelvin.isAscii = false ∧ kelvin.lower = "ksh".toList ∧ (index ids).find? kelvin = none := by
  intro ids kelvin
  have hids : ∀ i ∈ ids, i.isAscii = true := by decide +kernel
  have hfound : (index ids).find? "kSH".toList = some "Ksh".toList := by decide +kernel
  have hkelvin : kelvin.isAscii = false := by decide +kernel
  obtain ⟨-, -, -, -, hagain⟩ := find?_index_eq_search hids "kSH".toList
  obtain ⟨-, -, -, hnone, -⟩ := find?_index_eq_search hids kelvin
  exact ⟨hids, hfound, hagain _ _ hfound (by decide +kernel), hkelvin, by decide +kernel, hnone hkelvin⟩

end Registry
end Licensing
