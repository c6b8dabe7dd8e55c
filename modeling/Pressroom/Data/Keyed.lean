/-!
Entries under keys, of which each is there once. Writing an entry puts it last. Main statement: a
key is looked up to what was last written under it.
-/

namespace Pressroom.Keyed

variable {κ α : Type} [BEq κ]

/-- The entries with one under a key, which replaces what is there. -/
def write (key : κ) (value : α) (entries : List (κ × α)) : List (κ × α) :=
  entries.filter (·.1 != key) ++ [(key, value)]

theorem lookup_write [LawfulBEq κ] (key other : κ) (value : α) (entries : List (κ × α)) :
    (write key value entries).lookup other =
      if other == key then some value else entries.lookup other := by
  unfold write
  induction entries with
  | nil =>
    rw [List.filter_nil, List.nil_append, List.lookup_cons, List.lookup_nil]
    cases other == key <;> rfl
  | cons entry entries ih =>
    obtain ⟨k, v⟩ := entry
    by_cases hk : k = key
    · subst hk
      rw [List.filter_cons_of_neg (by simp), ih, List.lookup_cons]
      cases other == k <;> rfl
    · rw [List.filter_cons_of_pos (by simpa using hk), List.cons_append, List.lookup_cons,
        List.lookup_cons, ih]
      by_cases h : other = k
      · subst h
        simp [hk]
      · simp [beq_false_of_ne h]

theorem nodup_keys_write [LawfulBEq κ] (key : κ) (value : α) {entries : List (κ × α)}
    (h : (entries.map (·.1)).Nodup) : ((write key value entries).map (·.1)).Nodup := by
  rw [write, List.map_append, List.nodup_append]
  refine ⟨(h.sublist (List.filter_sublist.map _)), by simp, ?_⟩
  intro a ha b hb
  simp only [List.mem_map, List.mem_filter, bne_iff_ne] at ha
  obtain ⟨entry, ⟨-, hne⟩, rfl⟩ := ha
  simp only [List.map_cons, List.map_nil, List.mem_singleton] at hb
  exact hb ▸ hne

end Pressroom.Keyed
