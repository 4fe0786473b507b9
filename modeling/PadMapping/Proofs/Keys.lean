/-!
# Looking up by keys

A list of pairs can be searched for the first pair with a key. Where no key stands twice in the
list, this finds whatever stands behind the key, wherever in the list it is.
-/

namespace PadMapping.Proofs

variable {α β : Type} {l : List (α × β)} {k : α} {b : β}

section

variable [BEq α] [LawfulBEq α]

theorem mem_of_lookup (h : l.lookup k = some b) : (k, b) ∈ l := by
  obtain ⟨front, back, rfl, _⟩ := List.lookup_eq_some_iff.mp h
  simp

theorem lookup_eq_none_iff_notMem : l.lookup k = none ↔ k ∉ l.map Prod.fst := by
  rw [List.lookup_eq_none_iff]
  constructor
  · intro h hmem
    obtain ⟨p, hp, rfl⟩ := List.mem_map.mp hmem
    simpa using h p hp
  · intro h p hp
    rw [bne_iff_ne]
    rintro rfl
    exact h (List.mem_map_of_mem hp)

theorem lookup_eq_some_iff_mem (hkeys : (l.map Prod.fst).Nodup) :
    l.lookup k = some b ↔ (k, b) ∈ l := by
  refine ⟨mem_of_lookup, ?_⟩
  intro hmem
  obtain ⟨front, back, rfl⟩ := List.append_of_mem hmem
  rw [List.map_append, List.map_cons, List.nodup_append] at hkeys
  refine List.lookup_eq_some_iff.mpr ⟨front, back, rfl, ?_⟩
  intro p hp
  have hne := hkeys.2.2 p.1 (List.mem_map_of_mem hp) k List.mem_cons_self
  exact bne_iff_ne.mpr (Ne.symm hne)

end

/-- A new key at the end is a key more, and none twice. -/
theorem nodup_concat (hkeys : (l.map Prod.fst).Nodup) (hnew : k ∉ l.map Prod.fst) :
    ((l ++ [(k, b)]).map Prod.fst).Nodup := by
  rw [List.map_append, List.nodup_append]
  refine ⟨hkeys, by simp, ?_⟩
  intro a ha c hc heq
  rw [heq, List.mem_singleton.mp hc] at ha
  exact hnew ha

end PadMapping.Proofs
