import ChannelMux.Registry.History

/-!
Looking a channel up in a registry after its records were changed. A key never has two records, so a
registry is one record, or none, for each key.
-/
namespace ChannelMux.Registry

variable {ν : Type}

theorem key_of_find? {r : Registry ν} {key : ChannelKey} {record : Record}
    (h : r.find? key = some record) : record.key = key := by
  simpa using List.find?_some h

theorem find?_update (r : Registry ν) (k key : ChannelKey) (f : Record → Record)
    (hf : ∀ record, record.key = k → (f record).key = k) :
    (r.update k f).find? key = if k = key then (r.find? key).map f else r.find? key := by
  have hkey : (fun record : Record => decide (record.key = key)) ∘
      (fun record => if record.key = k then f record else record) =
        fun record => decide (record.key = key) := by
    funext record
    by_cases h : record.key = k
    · simp [h, hf record h]
    · simp [h]
  unfold update find?
  rw [List.find?_map, hkey]
  cases hfind : r.records.find? (fun record => record.key = key) with
  | none => simp
  | some record =>
    have hrecord : record.key = key := by simpa using List.find?_some hfind
    by_cases h : k = key
    · simp [h, hrecord]
    · simp [h, hrecord, Ne.symm h]

theorem find?_remove (r : Registry ν) (k key : ChannelKey) :
    (r.remove k).find? key = if k = key then none else r.find? key := by
  unfold remove find?
  rw [List.find?_filter]
  by_cases h : k = key
  · rw [if_pos h, List.find?_eq_none]
    intro record _
    simp [h]
  · rw [if_neg h]
    congr 1
    funext record
    by_cases hrecord : record.key = key <;> simp [hrecord, Ne.symm h]

/-- A record put in place is the one found, provided that it is new or its key had a record. -/
theorem find?_place (r : Registry ν) (record : Record) (key : ChannelKey)
    (h : record.generation = r.nextGeneration ∨ (r.find? record.key).isSome) :
    (r.place record).find? key = if record.key = key then some record else r.find? key := by
  unfold place
  by_cases hgen : record.generation = r.nextGeneration
  · rw [if_pos hgen]
    have hrest := find?_remove r record.key key
    simp only [find?] at hrest ⊢
    rw [List.find?_append, hrest]
    by_cases hk : record.key = key <;> simp [hk]
  · rw [if_neg hgen, find?_update r _ _ _ (fun _ _ => rfl)]
    by_cases hk : record.key = key
    · subst hk
      obtain ⟨old, hold⟩ := Option.isSome_iff_exists.mp (h.resolve_left hgen)
      simp [hold]
    · simp [hk]

@[simp]
theorem find?_post (r : Registry ν) (subscribers : List Nat) (item : Except Error ν)
    (k : ChannelKey) : (r.post subscribers item).2.find? k = r.find? k := rfl

/-- No key has two records. -/
def Distinct (r : Registry ν) : Prop := (r.records.map Record.key).Nodup

theorem keys_update (r : Registry ν) (key : ChannelKey) (f : Record → Record)
    (hf : ∀ record, record.key = key → (f record).key = key) :
    (r.update key f).records.map Record.key = r.records.map Record.key := by
  simp only [update, List.map_map]
  apply List.map_congr_left
  intro record _
  by_cases h : record.key = key
  · simp [h, hf record h]
  · simp [h]

theorem Distinct.update {r : Registry ν} (h : r.Distinct) (key : ChannelKey)
    (f : Record → Record) (hf : ∀ record, record.key = key → (f record).key = key) :
    (r.update key f).Distinct := by
  unfold Distinct
  rw [keys_update r key f hf]
  exact h

theorem Distinct.remove {r : Registry ν} (h : r.Distinct) (key : ChannelKey) :
    (r.remove key).Distinct :=
  List.Nodup.sublist (List.Sublist.map Record.key List.filter_sublist) h

theorem Distinct.place {r : Registry ν} (h : r.Distinct) (record : Record) :
    (r.place record).Distinct := by
  unfold Registry.place
  split
  · have hgone : record.key ∉ (r.remove record.key).records.map Record.key := by
      intro hm
      obtain ⟨old, hold, he⟩ := List.mem_map.mp hm
      have hne := (List.mem_filter.mp hold).2
      simp [he] at hne
    unfold Distinct
    rw [List.map_append, List.nodup_append]
    refine ⟨h.remove record.key, by simp, ?_⟩
    intro a ha b hb hab
    have hb' : b = record.key := by simpa using hb
    rw [hab, hb'] at ha
    exact hgone ha
  · exact h.update record.key _ (fun _ _ => rfl)

/-- Revising records keeps the order of what the revision leaves alone in them. -/
theorem sublist_map_filterMap {β : Type} (tag : Record → β) {records : List Record}
    {f : Record → Option Record}
    (hf : ∀ record ∈ records, ∀ kept, f record = some kept → tag kept = tag record) :
    ((records.filterMap f).map tag).Sublist (records.map tag) := by
  induction records with
  | nil => exact List.Sublist.slnil
  | cons record rest ih =>
    have hrest := ih fun other hother => hf other (List.mem_cons_of_mem _ hother)
    cases hkept : f record with
    | none =>
      rw [List.filterMap_cons_none hkept]
      exact hrest.cons (tag record)
    | some kept =>
      rw [List.filterMap_cons_some hkept, List.map_cons, List.map_cons,
        hf record List.mem_cons_self kept hkept]
      exact hrest.cons_cons (tag record)

/-- With one record a key, revising every record revises the one that is found. -/
theorem find?_filterMap {records : List Record} (distinct : (records.map Record.key).Nodup)
    (f : Record → Option Record)
    (hf : ∀ record kept, f record = some kept → kept.key = record.key) (k : ChannelKey) :
    (records.filterMap f).find? (fun record => record.key = k) =
      (records.find? (fun record => record.key = k)).bind f := by
  induction records with
  | nil => rfl
  | cons record rest ih =>
    obtain ⟨hnew, hrest⟩ := List.nodup_cons.mp distinct
    by_cases hk : record.key = k
    · have hnone : rest.find? (fun other => other.key = k) = none := by
        apply List.find?_eq_none.mpr
        intro other hother
        have : other.key ≠ k := fun he => hnew (List.mem_map.mpr ⟨other, hother, he.trans hk.symm⟩)
        simpa using this
      have hlater := ih hrest
      rw [hnone] at hlater
      rw [List.find?_cons_of_pos (by simpa using hk)]
      cases hkept : f record with
      | none => rw [List.filterMap_cons_none hkept, hlater]; simp [hkept]
      | some kept =>
        rw [List.filterMap_cons_some hkept,
          List.find?_cons_of_pos (by simpa using (hf record kept hkept).trans hk)]
        simp [hkept]
    · rw [List.find?_cons_of_neg (by simpa using hk)]
      cases hkept : f record with
      | none => rw [List.filterMap_cons_none hkept, ih hrest]
      | some kept =>
        have hne : kept.key ≠ k := by rw [hf record kept hkept]; exact hk
        rw [List.filterMap_cons_some hkept, List.find?_cons_of_neg (by simpa using hne), ih hrest]

end ChannelMux.Registry
