import ChannelMux.Proofs.Registry.Sound
import Mathlib.Data.List.Nodup

/-!
The numbers of a registry. Generations grow along the records and subscribers are numbered once for
all, so a record is told by its generation and a subscriber by its number, whatever became of the
records and subscribers before.
-/
namespace ChannelMux

namespace Record

/-- A record, and what a call other than an acquisition left of it: it stands for the same round,
and nobody joined. -/
structure Remains (record kept : Record) : Prop where
  key : kept.key = record.key
  generation : kept.generation = record.generation
  request : kept.request = record.request
  subscribers : kept.subscribers.Sublist record.subscribers

theorem Remains.refl (record : Record) : record.Remains record :=
  ⟨rfl, rfl, rfl, .refl _⟩

theorem remains_afterLoss {record kept : Record} (h : Registry.afterLoss record = some kept) :
    record.Remains kept := by
  obtain ⟨-, rfl⟩ := afterLoss_cases h
  exact ⟨rfl, rfl, rfl, .refl _⟩

theorem remains_swept {now timeout : Nat} {record kept : Record}
    (h : record.swept now timeout = some kept) : record.Remains kept := by
  rcases swept_cases h with rfl | ⟨-, rfl⟩
  · exact .refl _
  · exact ⟨rfl, rfl, rfl, .refl _⟩

/-- The unsubscribe of this round is written, so that an acquisition begins another round. -/
def Spent (record : Record) : Prop :=
  record.state = .unsubscribing ∧ record.unsubscribeSent.isSome = true

instance (record : Record) : Decidable record.Spent := by
  unfold Spent; infer_instance

theorem joined_of_spent {record : Record} (h : record.Spent) (key : ChannelKey)
    (request : ChannelRequest) (generation subscriber : Nat) :
    joined (some record) key request generation subscriber = { record with
      request, generation, state := .pending, subscribeSent := false
      subscribers := record.subscribers ++ [subscriber] } := by
  simp [joined, reopened, h.1, h.2]

/-- An acquisition that finds a round still open joins that round. -/
theorem joined_of_not_spent {record : Record} (h : ¬record.Spent) (key : ChannelKey)
    (request : ChannelRequest) (generation subscriber : Nat) :
    ∃ state, joined (some record) key request generation subscriber =
      { record with state, subscribers := record.subscribers ++ [subscriber] } := by
  simp only [joined, reopened]
  by_cases hstate : record.state = .unsubscribing
  · have hmark : ¬record.unsubscribeSent.isSome = true := fun hmark => h ⟨hstate, hmark⟩
    rw [if_pos hstate, if_neg hmark]
    exact ⟨_, rfl⟩
  · rw [if_neg hstate]
    exact ⟨_, rfl⟩

theorem joined_key {slot : Option Record} {key : ChannelKey}
    (h : ∀ old, slot = some old → old.key = key) (request : ChannelRequest)
    (generation subscriber : Nat) : (joined slot key request generation subscriber).key = key := by
  cases slot with
  | none => rfl
  | some old => simp [joined, reopened_key, h old rfl]

theorem joined_subscribers (slot : Option Record) (key : ChannelKey) (request : ChannelRequest)
    (generation subscriber : Nat) : (joined slot key request generation subscriber).subscribers =
      (slot.elim [] Record.subscribers) ++ [subscriber] := by
  cases slot with
  | none => rfl
  | some old =>
    by_cases h : old.Spent
    · rw [joined_of_spent h]; rfl
    · obtain ⟨state, hjoined⟩ := joined_of_not_spent h key request generation subscriber
      rw [hjoined]; rfl

end Record

namespace Registry

variable {ν : Type} {r r' : Registry ν} {key : ChannelKey}

theorem mem_of_find? {record : Record} (hfind : r.find? key = some record) :
    record ∈ r.records :=
  List.mem_of_find?_eq_some hfind

theorem Distinct.find?_of_mem (distinct : r.Distinct) {record : Record}
    (hmem : record ∈ r.records) : r.find? record.key = some record := by
  cases hfind : r.find? record.key with
  | none =>
    have hnone := List.find?_eq_none.mp hfind record hmem
    simp at hnone
  | some other =>
    have hsame := List.inj_on_of_nodup_map distinct (mem_of_find? hfind) hmem (key_of_find? hfind)
    rw [hsame]

/-- The records of `r'` are what is left of those of `r`, in the same order. -/
def Reduced (r r' : Registry ν) : Prop :=
  ∃ f : Record → Option Record, (∀ record ∈ r.records, ∀ kept, f record = some kept →
    record.Remains kept) ∧ r'.records = r.records.filterMap f

theorem Reduced.refl (r : Registry ν) : r.Reduced r := by
  refine ⟨some, ?_, List.filterMap_some.symm⟩
  rintro record - kept ⟨⟩
  exact .refl record

theorem Reduced.remove (r : Registry ν) (key : ChannelKey) : r.Reduced (r.remove key) := by
  refine ⟨Option.guard (fun record => record.key ≠ key), ?_, List.filterMap_eq_filter.symm ▸ rfl⟩
  intro record _ kept hkept
  obtain ⟨rfl, -⟩ := Option.guard_eq_some_iff.mp hkept
  exact .refl _

theorem Reduced.update (distinct : r.Distinct) {record : Record} {f : Record → Record}
    (hfind : r.find? key = some record) (hf : record.Remains (f record)) :
    r.Reduced (r.update key f) := by
  refine ⟨fun record => some (if record.key = key then f record else record), ?_,
    List.filterMap_eq_map.symm ▸ rfl⟩
  rintro other hother kept ⟨⟩
  split
  · rename_i hkey
    have hsame := distinct.find?_of_mem hother
    rw [hkey, hfind] at hsame
    cases hsame
    exact hf
  · exact .refl other

/-- A record that is left is left of one. -/
theorem Reduced.source (h : r.Reduced r') {kept : Record} (hmem : kept ∈ r'.records) :
    ∃ record ∈ r.records, record.Remains kept := by
  obtain ⟨f, hf, hrecords⟩ := h
  rw [hrecords] at hmem
  obtain ⟨record, hrecord, hsome⟩ := List.mem_filterMap.mp hmem
  exact ⟨record, hrecord, hf record hrecord kept hsome⟩

/-- No call but an acquisition adds a record, moves one, or begins another round in one. -/
theorem reduced_perform (distinct : r.Distinct) {operation : Operation ν}
    (hjoin : ∀ key request, operation ≠ .acquire key request) :
    r.Reduced (r.perform operation).2 := by
  cases operation with
  | acquire k request => exact absurd rfl (hjoin k request)
  | setOnline up =>
    cases up with
    | true => exact .refl r
    | false => exact ⟨afterLoss, fun _ _ _ => Record.remains_afterLoss, rfl⟩
  | expire now timeout =>
    refine ⟨(·.swept now timeout), fun _ _ _ => Record.remains_swept, ?_⟩
    simp [Registry.perform, expire, Record.swept]
  | release k ticket =>
    simp only [perform, Prod.map_snd, id, release]
    cases hfind : r.find? k with
    | none => exact .refl r
    | some record =>
      simp only
      split
      · exact .refl r
      · split
        · exact .update distinct hfind ⟨rfl, rfl, rfl, List.filter_sublist⟩
        · split
          · exact .update distinct hfind ⟨rfl, rfl, rfl, List.nil_sublist _⟩
          · exact .remove r k
  | _ =>
    simp only [perform, Prod.map_snd, id, activate, fail, unsubscribeAcked, forget, beginSubscribe,
      beginUnsubscribe, dispatch]
    repeat' split
    all_goals first
      | exact .refl r
      | exact .remove r _
      | exact .update distinct (by assumption) ⟨rfl, rfl, rfl, .refl _⟩

theorem nextGeneration_perform (r : Registry ν) (operation : Operation ν) :
    (r.perform operation).2.nextGeneration =
      match operation with
      | .acquire _ _ => r.nextGeneration + 1
      | _ => r.nextGeneration := by
  cases operation with
  | setOnline up => cases up <;> rfl
  | acquire k request => rfl
  | expire now timeout => rfl
  | _ =>
    simp only [perform, release, activate, fail, unsubscribeAcked, forget, beginSubscribe,
      beginUnsubscribe, dispatch, Prod.map_snd, id]
    repeat' split
    all_goals rfl

theorem length_inboxes_perform (r : Registry ν) (operation : Operation ν) :
    (r.perform operation).2.inboxes.length =
      match operation with
      | .acquire _ _ => r.inboxes.length + 1
      | _ => r.inboxes.length := by
  cases operation with
  | setOnline up => cases up <;> rfl
  | acquire k request => simp [perform, acquire]
  | expire now timeout => rfl
  | _ =>
    simp only [perform, release, activate, fail, unsubscribeAcked, forget, beginSubscribe,
      beginUnsubscribe, dispatch, Prod.map_snd, id]
    repeat' split
    all_goals simp [post, update, remove]

/-- An acquisition of `key` would begin a round: there is no record, or its round is spent. -/
def Founds (r : Registry ν) (key : ChannelKey) : Prop :=
  ∀ record, r.find? key = some record → record.Spent

/-- The record that an acquisition puts in place. -/
abbrev joinedAt (r : Registry ν) (key : ChannelKey) (request : ChannelRequest) : Record :=
  Record.joined (r.find? key) key request r.nextGeneration r.inboxes.length

theorem joinedAt_of_founds (h : r.Founds key) (request : ChannelRequest) :
    (r.joinedAt key request).generation = r.nextGeneration ∧
      (r.joinedAt key request).request = request := by
  unfold joinedAt
  cases hfind : r.find? key with
  | none => exact ⟨rfl, rfl⟩
  | some old =>
    rw [Record.joined_of_spent (h old hfind)]
    exact ⟨rfl, rfl⟩

theorem joinedAt_of_not_founds (h : ¬r.Founds key) (request : ChannelRequest) :
    ∃ old, r.find? key = some old ∧ (r.joinedAt key request).generation = old.generation ∧
      (r.joinedAt key request).request = old.request := by
  simp only [Founds, not_forall] at h
  obtain ⟨old, hfind, hopen⟩ := h
  obtain ⟨state, hjoined⟩ :=
    Record.joined_of_not_spent hopen key request r.nextGeneration r.inboxes.length
  refine ⟨old, hfind, ?_⟩
  rw [joinedAt, hfind, hjoined]
  exact ⟨rfl, rfl⟩

theorem joinedAt_key (r : Registry ν) (key : ChannelKey) (request : ChannelRequest) :
    (r.joinedAt key request).key = key :=
  Record.joined_key (fun _ hfind => key_of_find? hfind) request _ _

theorem records_place (r : Registry ν) (record : Record) : (r.place record).records =
    if record.generation = r.nextGeneration then (r.remove record.key).records ++ [record]
    else (r.update record.key (fun _ => record)).records := by
  unfold place
  split <;> rfl

/-- What an acquisition leaves: the record that it joined or made, and those of other channels. -/
theorem mem_records_acquire (distinct : r.Distinct) {request : ChannelRequest} {record : Record}
    (hmem : record ∈ (r.acquire key request).2.records) :
    record = r.joinedAt key request ∨ record ∈ r.records ∧ record.key ≠ key := by
  have hdistinct : (r.acquire key request).2.Distinct := distinct.perform (.acquire key request)
  have hfind := hdistinct.find?_of_mem hmem
  rw [find?_acquire] at hfind
  split at hfind
  · rename_i hkey
    rw [← hkey] at hfind
    exact Or.inl (Option.some.inj hfind).symm
  · rename_i hkey
    exact Or.inr ⟨mem_of_find? hfind, Ne.symm hkey⟩

/-- Generations ascend along the records and subscribers are in one place each; all of them were
given out before. -/
structure Numbered (r : Registry ν) : Prop where
  ascending : r.records.Pairwise (fun a b => a.generation < b.generation)
  counted : ∀ record ∈ r.records, record.generation < r.nextGeneration
  once : ∀ record ∈ r.records, record.subscribers.Nodup
  apart : ∀ a ∈ r.records, ∀ b ∈ r.records, ∀ s ∈ a.subscribers, s ∈ b.subscribers → a.key = b.key
  known : ∀ record ∈ r.records, ∀ s ∈ record.subscribers, s < r.inboxes.length

theorem numbered_empty : (empty : Registry ν).Numbered := by
  constructor <;> simp [empty]

theorem Numbered.reduced (h : r.Numbered) (hreduced : r.Reduced r')
    (hgeneration : r'.nextGeneration = r.nextGeneration)
    (hlength : r'.inboxes.length = r.inboxes.length) : r'.Numbered := by
  constructor
  · obtain ⟨f, hf, hrecords⟩ := hreduced
    rw [hrecords, List.pairwise_filterMap]
    refine h.ascending.imp_of_mem ?_
    intro a b ha hb hlt a' ha' b' hb'
    rw [(hf a ha a' ha').generation, (hf b hb b' hb').generation]
    exact hlt
  · intro kept hkept
    obtain ⟨record, hrecord, hremains⟩ := hreduced.source hkept
    rw [hremains.generation, hgeneration]
    exact h.counted record hrecord
  · intro kept hkept
    obtain ⟨record, hrecord, hremains⟩ := hreduced.source hkept
    exact (h.once record hrecord).sublist hremains.subscribers
  · intro a' ha' b' hb' s hs hs'
    obtain ⟨a, ha, hleft⟩ := hreduced.source ha'
    obtain ⟨b, hb, hright⟩ := hreduced.source hb'
    rw [hleft.key, hright.key]
    exact h.apart a ha b hb s (hleft.subscribers.subset hs) (hright.subscribers.subset hs')
  · intro kept hkept s hs
    obtain ⟨record, hrecord, hremains⟩ := hreduced.source hkept
    rw [hlength]
    exact h.known record hrecord s (hremains.subscribers.subset hs)

/-- The newcomer has a number of its own; besides it the record holds whom it held. -/
theorem mem_joinedAt {request : ChannelRequest} {s : Nat}
    (hs : s ∈ (r.joinedAt key request).subscribers) :
    s = r.inboxes.length ∨ ∃ old, r.find? key = some old ∧ s ∈ old.subscribers := by
  rw [joinedAt, Record.joined_subscribers, List.mem_append, List.mem_singleton] at hs
  rcases hs with hold | rfl
  · cases hfind : r.find? key with
    | none => simp [hfind] at hold
    | some old => exact Or.inr ⟨old, rfl, by simpa [hfind] using hold⟩
  · exact Or.inl rfl

theorem Numbered.fresh (h : r.Numbered) {record : Record} (hmem : record ∈ r.records) :
    r.inboxes.length ∉ record.subscribers :=
  fun hnew => Nat.lt_irrefl _ (h.known record hmem _ hnew)

theorem Numbered.nodup_joinedAt (h : r.Numbered) (key : ChannelKey) (request : ChannelRequest) :
    (r.joinedAt key request).subscribers.Nodup := by
  rw [joinedAt, Record.joined_subscribers]
  cases hfind : r.find? key with
  | none => simp
  | some old =>
    have hmem := mem_of_find? hfind
    refine List.nodup_append.mpr ⟨h.once old hmem, by simp, ?_⟩
    intro s hs new hnew heq
    rw [heq, List.mem_singleton.mp hnew] at hs
    exact h.fresh hmem hs

theorem Numbered.ascending_acquire (h : r.Numbered) (distinct : r.Distinct)
    (request : ChannelRequest) :
    (r.acquire key request).2.records.Pairwise (fun a b => a.generation < b.generation) := by
  change (r.place (r.joinedAt key request)).records.Pairwise _
  rw [records_place]
  split
  · rename_i hnew
    refine List.pairwise_append.mpr ⟨h.ascending.sublist List.filter_sublist, by simp, ?_⟩
    intro a ha b hb
    rw [List.mem_singleton.mp hb, hnew]
    exact h.counted a (List.mem_of_mem_filter ha)
  · rename_i hnew
    have hopen : ¬r.Founds key := fun hfounds => hnew (joinedAt_of_founds hfounds request).1
    obtain ⟨old, hfind, hgeneration, -⟩ := joinedAt_of_not_founds hopen request
    have hkeeps : ∀ record ∈ r.records,
        (if record.key = (r.joinedAt key request).key then r.joinedAt key request
          else record).generation = record.generation := by
      intro record hmem
      split
      · rename_i hkey
        have hsame := distinct.find?_of_mem hmem
        rw [hkey, joinedAt_key, hfind] at hsame
        cases hsame
        exact hgeneration
      · rfl
    refine List.pairwise_map.mpr (h.ascending.imp_of_mem ?_)
    intro a b ha hb hlt
    rw [hkeeps a ha, hkeeps b hb]
    exact hlt

theorem Numbered.acquire (h : r.Numbered) (distinct : r.Distinct) (key : ChannelKey)
    (request : ChannelRequest) : (r.acquire key request).2.Numbered := by
  have hlength : (r.acquire key request).2.inboxes.length = r.inboxes.length + 1 :=
    length_inboxes_perform r (.acquire key request)
  have hjoined_counted : (r.joinedAt key request).generation < r.nextGeneration + 1 := by
    by_cases hfounds : r.Founds key
    · rw [(joinedAt_of_founds hfounds request).1]
      exact Nat.lt_succ_self _
    · obtain ⟨old, hfind, hgeneration, -⟩ := joinedAt_of_not_founds hfounds request
      rw [hgeneration]
      exact Nat.lt_succ_of_lt (h.counted old (mem_of_find? hfind))
  have happart : ∀ other ∈ r.records, other.key ≠ key →
      ∀ s ∈ (r.joinedAt key request).subscribers, s ∉ other.subscribers := by
    intro other hmem hkey s hs hother
    rcases mem_joinedAt hs with rfl | ⟨old, hfind, hold⟩
    · exact h.fresh hmem hother
    · have hsame := h.apart old (mem_of_find? hfind) other hmem s hold hother
      exact hkey (hsame.symm.trans (key_of_find? hfind))
  constructor
  · exact h.ascending_acquire distinct request
  · intro record hmem
    rcases mem_records_acquire distinct hmem with rfl | ⟨hold, -⟩
    · exact hjoined_counted
    · exact Nat.lt_succ_of_lt (h.counted record hold)
  · intro record hmem
    rcases mem_records_acquire distinct hmem with rfl | ⟨hold, -⟩
    · exact h.nodup_joinedAt key request
    · exact h.once record hold
  · intro a ha b hb s hs hs'
    rcases mem_records_acquire distinct ha with rfl | ⟨hold, hkey⟩
    · rcases mem_records_acquire distinct hb with rfl | ⟨hold', hkey'⟩
      · rfl
      · exact absurd hs' (happart b hold' hkey' s hs)
    · rcases mem_records_acquire distinct hb with rfl | ⟨hold', -⟩
      · exact absurd hs (happart a hold hkey s hs')
      · exact h.apart a hold b hold' s hs hs'
  · intro record hmem s hs
    rw [hlength]
    rcases mem_records_acquire distinct hmem with rfl | ⟨hold, -⟩
    · rcases mem_joinedAt hs with rfl | ⟨old, hfind, hold⟩
      · exact Nat.lt_succ_self _
      · exact Nat.lt_succ_of_lt (h.known old (mem_of_find? hfind) s hold)
    · exact Nat.lt_succ_of_lt (h.known record hold s hs)

theorem Numbered.perform (h : r.Numbered) (distinct : r.Distinct) (operation : Operation ν) :
    (r.perform operation).2.Numbered := by
  have hother : (∀ key request, operation ≠ .acquire key request) →
      (r.perform operation).2.nextGeneration = r.nextGeneration →
      (r.perform operation).2.inboxes.length = r.inboxes.length →
      (r.perform operation).2.Numbered := fun hjoin => h.reduced (reduced_perform distinct hjoin)
  have hgeneration := nextGeneration_perform r operation
  have hlength := length_inboxes_perform r operation
  cases operation with
  | acquire k request => exact h.acquire distinct k request
  | _ => exact hother (by simp) hgeneration hlength

theorem Numbered.nodup_subscribers (h : r.Numbered) (distinct : r.Distinct) :
    (r.records.flatMap Record.subscribers).Nodup := by
  refine List.nodup_flatMap.mpr ⟨h.once, h.ascending.imp_of_mem ?_⟩
  intro a b ha hb hlt s hs hs'
  have hsame := List.inj_on_of_nodup_map distinct ha hb (h.apart a ha b hb s hs hs')
  rw [hsame] at hlt
  exact Nat.lt_irrefl _ hlt

end Registry

end ChannelMux
