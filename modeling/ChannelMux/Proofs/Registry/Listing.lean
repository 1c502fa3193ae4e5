import ChannelMux.Proofs.Registry.Consistent
import ChannelMux.Proofs.Registry.Driven
import ChannelMux.Proofs.Registry.Sharing
import Mathlib.Data.List.Induction

/-!
What a connection finds wanted when it comes up: every channel that anybody holds, once, in the
order in which the present records began. A round of a channel begins with an acquisition that finds
no record of it, or one whose unsubscribe is already written.
-/
namespace ChannelMux.Registry

variable {ν : Type} {r r' : Registry ν} {key : ChannelKey} {request : ChannelRequest}

/-- Confirmations and payloads come only while the connection is up. -/
def IsDriven : Registry ν → List (Operation ν) → Prop
  | _, [] => True
  | r, operation :: rest =>
    (operation.confirmed?.isSome → r.online = true) ∧ IsDriven (r.perform operation).2 rest

instance decidableIsDriven (r : Registry ν) (operations : List (Operation ν)) :
    Decidable (IsDriven r operations) :=
  match operations with
  | [] => inferInstanceAs (Decidable True)
  | operation :: rest =>
    have := decidableIsDriven (r.perform operation).2 rest
    inferInstanceAs (Decidable (_ ∧ _))

theorem Driven.run (h : Driven r) {operations : List (Operation ν)}
    (hdriven : IsDriven r operations) : Driven (r.run operations).2 := by
  induction operations generalizing r with
  | nil => exact h
  | cons operation rest ih => exact ih (h.perform operation hdriven.1) hdriven.2

def Operation.isAcquisition : Operation ν → Bool
  | .acquire _ _ => true
  | _ => false

def Operation.isRelease : Operation ν → Bool
  | .release _ _ => true
  | _ => false

/-- The registry after a history. -/
abbrev after (history : List (Operation ν)) : Registry ν := (empty.run history).2

theorem after_concat (history : List (Operation ν)) (operation : Operation ν) :
    after (history ++ [operation]) = ((after history).perform operation).2 := by
  rw [after, run_append]
  rfl

/-- The present round of `key` began with call `n` of a history, and it is for `request`: of the
acquisitions of the channel this is the last one that found no round to join. -/
structure Began (history : List (Operation ν)) (key : ChannelKey) (n : Nat)
    (request : ChannelRequest) : Prop where
  call : history[n]? = some (.acquire key request)
  founds : (after (history.take n)).Founds key
  last : ∀ m later, n < m → history[m]? = some (.acquire key later) →
    ¬(after (history.take m)).Founds key

variable {history : List (Operation ν)} {n m : Nat}

theorem Began.lt (h : Began history key n request) : n < history.length :=
  (List.getElem?_eq_some_iff.mp h.call).1

theorem Began.unique {other : ChannelRequest} (h : Began history key n request)
    (h' : Began history key m other) : n = m := by
  rcases Nat.lt_trichotomy n m with hlt | heq | hgt
  · exact absurd h'.founds (h.last m other hlt h'.call)
  · exact heq
  · exact absurd h.founds (h'.last n request hgt h.call)

/-- A round goes on until an acquisition of its channel begins another. -/
theorem Began.concat (h : Began history key n request) {operation : Operation ν}
    (hjoins : ∀ later, operation = .acquire key later → ¬(after history).Founds key) :
    Began (history ++ [operation]) key n request := by
  have hlt := h.lt
  refine ⟨?_, ?_, ?_⟩
  · rw [List.getElem?_append_left hlt]
    exact h.call
  · rw [List.take_append_of_le_length (Nat.le_of_lt hlt)]
    exact h.founds
  · intro m later hm hcall
    rcases Nat.lt_or_ge m history.length with hold | hnew
    · rw [List.getElem?_append_left hold] at hcall
      rw [List.take_append_of_le_length (Nat.le_of_lt hold)]
      exact h.last m later hm hcall
    · rw [List.getElem?_append_right hnew] at hcall
      obtain ⟨hzero, hlast⟩ := List.getElem?_eq_some_iff.mp hcall
      have hm : m = history.length := by
        simp only [List.length_singleton] at hzero
        omega
      subst hm
      rw [List.take_left']
      · exact hjoins later (by simpa using hlast)
      · rfl

theorem began_of_founds (hfounds : (after history).Founds key) (request : ChannelRequest) :
    Began (history ++ [.acquire key request]) key history.length request := by
  refine ⟨List.getElem?_concat_length, ?_, ?_⟩
  · rw [List.take_left' rfl]
    exact hfounds
  · intro m later hm hcall
    have hlength := (List.getElem?_eq_some_iff.mp hcall).1
    rw [List.length_append, List.length_singleton] at hlength
    omega

/-- Rounds are numbered by the acquisitions before them. -/
def acquisitions (history : List (Operation ν)) : Nat := history.countP Operation.isAcquisition

theorem nextGeneration_after (history : List (Operation ν)) :
    (after history).nextGeneration = acquisitions history := by
  induction history using List.reverseRecOn with
  | nil => rfl
  | append_singleton history operation ih =>
    rw [after_concat, nextGeneration_perform, ih, acquisitions, acquisitions, List.countP_append]
    cases operation <;> rfl

theorem lt_of_acquisitions
    (h : acquisitions (history.take n) < acquisitions (history.take m)) : n < m := by
  refine Nat.lt_of_not_le fun hle => Nat.not_le_of_lt h ?_
  exact List.Sublist.countP_le (List.take_sublist_take_left hle)

/-- The round of a record began in a history, with the acquisition that numbers it. -/
def Dated (history : List (Operation ν)) (record : Record) : Prop :=
  ∃ n, Began history record.key n record.request ∧
    record.generation = acquisitions (history.take n)

/-- What is left of a record is of the same round, unless the call begins another. -/
theorem Dated.concat {record kept : Record} (h : Dated history record)
    (hkey : kept.key = record.key) (hgeneration : kept.generation = record.generation)
    (hrequest : kept.request = record.request) {operation : Operation ν}
    (hjoins : ∀ later, operation = .acquire record.key later →
      ¬(after history).Founds record.key) : Dated (history ++ [operation]) kept := by
  obtain ⟨n, hbegan, hnumber⟩ := h
  refine ⟨n, ?_, ?_⟩
  · rw [hkey, hrequest]
    exact hbegan.concat hjoins
  · rw [hgeneration, hnumber, List.take_append_of_le_length (Nat.le_of_lt hbegan.lt)]

theorem dated_founded (hfounds : (after history).Founds key) (request : ChannelRequest) :
    Dated (history ++ [.acquire key request]) ((after history).joinedAt key request) := by
  obtain ⟨hgeneration, hrequest⟩ := joinedAt_of_founds hfounds request
  refine ⟨history.length, ?_, ?_⟩
  · rw [joinedAt_key, hrequest]
    exact began_of_founds hfounds request
  · rw [hgeneration, nextGeneration_after, List.take_left' rfl]

/-- Every record tells when its round began. By induction on the history, the last call first. -/
theorem dated (history : List (Operation ν)) :
    ∀ record ∈ (after history).records, Dated history record := by
  induction history using List.reverseRecOn with
  | nil => simp [after, Registry.run, empty]
  | append_singleton history operation ih =>
    have hconsistent : (after history).Consistent := consistent_empty.run history
    intro record hmem
    rw [after_concat] at hmem
    by_cases hacquire : ∃ key request, operation = .acquire key request
    · obtain ⟨key, request, rfl⟩ := hacquire
      rcases mem_records_acquire hconsistent.distinct hmem with rfl | ⟨hold, hother⟩
      · by_cases hfounds : (after history).Founds key
        · exact dated_founded hfounds request
        · obtain ⟨old, hfind, hgeneration, hrequest⟩ := joinedAt_of_not_founds hfounds request
          have hkey := key_of_find? hfind
          refine (ih old (mem_of_find? hfind)).concat ?_ hgeneration hrequest fun _ _ => ?_
          · rw [joinedAt_key, hkey]
          · rw [hkey]
            exact hfounds
      · refine (ih record hold).concat rfl rfl rfl fun later hlater => ?_
        cases hlater
        exact absurd rfl hother
    · have hreduced := reduced_perform hconsistent.distinct
        (fun key request h => hacquire ⟨key, request, h⟩)
      obtain ⟨old, hold, hremains⟩ := hreduced.source hmem
      exact (ih old hold).concat hremains.key hremains.generation hremains.request
        fun later hlater => absurd ⟨old.key, later, hlater⟩ hacquire

/-- In whatever order a map would give the records, sorted by generation they are in this one. -/
theorem Consistent.sorted (h : r.Consistent) {stored : List Record}
    (hsame : stored.Perm r.records) :
    stored.mergeSort (fun a b => a.generation ≤ b.generation) = r.records := by
  have hperm := (List.mergeSort_perm stored (fun a b => a.generation ≤ b.generation)).trans hsame
  have hsorted : (stored.mergeSort (fun a b => a.generation ≤ b.generation)).Pairwise
      (fun a b => decide (a.generation ≤ b.generation) = true) := by
    refine List.pairwise_mergeSort (fun a b c hab hbc => ?_) (fun a b => ?_) stored
    · rw [decide_eq_true_iff] at *
      exact Nat.le_trans hab hbc
    · simpa using Nat.le_total a.generation b.generation
  have hnumbers : (r.records.map Record.generation).Nodup :=
    List.pairwise_map.mpr (h.numbered.ascending.imp Nat.ne_of_lt)
  refine List.Perm.eq_of_pairwise ?_ hsorted ?_ hperm
  · intro a b ha hb hab hba
    rw [decide_eq_true_iff] at hab hba
    exact List.inj_on_of_nodup_map hnumbers (hperm.subset ha) hb (Nat.le_antisymm hab hba)
  · exact h.numbered.ascending.imp fun hlt => decide_eq_true (Nat.le_of_lt hlt)

/-- A channel in a list of what is wanted. -/
def entry (record : Record) : ChannelKey × ChannelRequest := (record.key, record.request)

theorem wanted_sublist (r : Registry ν) : r.wanted.Sublist (r.records.map entry) :=
  List.filter_sublist.map entry

/-- A channel is wanted if anybody holds it. -/
theorem Consistent.mem_wanted (h : r.Consistent) {e : ChannelKey × ChannelRequest} :
    e ∈ r.wanted ↔ ∃ record, r.find? e.1 = some record ∧ record.subscribers ≠ [] ∧
      record.request = e.2 := by
  simp only [wanted, List.mem_map, List.mem_filter]
  constructor
  · rintro ⟨record, ⟨hmem, hheld⟩, rfl⟩
    refine ⟨record, h.distinct.find?_of_mem hmem, ?_, rfl⟩
    intro hnobody
    simp [hnobody] at hheld
  · rintro ⟨record, hfind, hheld, hrequest⟩
    have hstate := mt (h.sound e.1 record hfind).idle.mp hheld
    refine ⟨record, ⟨mem_of_find? hfind, by simp [hheld, hstate]⟩, ?_⟩
    rw [hrequest, key_of_find? hfind]

/-- What is wanted after a history. -/
structure Lists (history : List (Operation ν)) : Prop where
  held : ∀ key, key ∈ (after history).wanted.map Prod.fst ↔ 0 < (after history).subscriberCount key
  once : ((after history).wanted.map Prod.fst).Nodup
  /-- Every channel is listed with the request that its round began with. -/
  began : ∀ e ∈ (after history).wanted, ∃ n, Began history e.1 n e.2
  /-- Channels are listed in the order in which their rounds began. -/
  ordered : (after history).wanted.Pairwise (fun first second =>
    ∀ n m, Began history first.1 n first.2 → Began history second.1 m second.2 → n < m)

theorem lists (history : List (Operation ν)) : Lists history := by
  have h : (after history).Consistent := consistent_empty.run history
  refine ⟨fun key => ?_, ?_, ?_, ?_⟩
  · rw [subscriberCount_pos, List.mem_map]
    constructor
    · rintro ⟨e, he, rfl⟩
      obtain ⟨record, hfind, hheld, -⟩ := h.mem_wanted.mp he
      exact ⟨record, hfind, hheld⟩
    · rintro ⟨record, hfind, hheld⟩
      exact ⟨(key, record.request), h.mem_wanted.mpr ⟨record, hfind, hheld, rfl⟩, rfl⟩
  · refine List.Nodup.sublist ((wanted_sublist _).map Prod.fst) ?_
    rw [List.map_map]
    exact h.distinct
  · intro e he
    obtain ⟨record, hmem, rfl⟩ := List.mem_map.mp ((wanted_sublist _).subset he)
    obtain ⟨n, hbegan, -⟩ := dated history record hmem
    exact ⟨n, hbegan⟩
  · refine List.Pairwise.sublist (wanted_sublist _) (List.pairwise_map.mpr ?_)
    refine h.numbered.ascending.imp_of_mem fun {first second} hfirst hsecond hlt n m hn hm => ?_
    obtain ⟨n', hn', hnumber⟩ := dated history first hfirst
    obtain ⟨m', hm', hnumber'⟩ := dated history second hsecond
    rw [hn.unique hn', hm.unique hm']
    rw [hnumber, hnumber'] at hlt
    exact lt_of_acquisitions hlt

theorem Driven.owes_of_mem (h : Driven r) (consistent : r.Consistent) (hdown : r.online = false)
    {record : Record} (hmem : record ∈ r.records) :
    record.OwesSubscribe ∧ record.unsubscribeSent = none :=
  h.owes_of_offline hdown (consistent.distinct.find?_of_mem hmem)

/-- While the connection is down, every record is wanted. -/
theorem Driven.wanted_of_offline (h : Driven r) (consistent : r.Consistent)
    (hdown : r.online = false) : r.wanted = r.records.map entry := by
  have hall : ∀ record ∈ r.records,
      (!record.subscribers.isEmpty && record.state ≠ .unsubscribing) = true := by
    intro record hmem
    obtain ⟨⟨hstate, -, hheld⟩, -⟩ := h.owes_of_mem consistent hdown hmem
    simp [hstate, hheld]
  rw [wanted, List.filter_eq_self.mpr hall]
  rfl

/-- A loss takes nothing from what is wanted. -/
theorem wanted_loss (r : Registry ν) : (r.setOnline false).wanted = r.wanted := by
  have hfilter : ∀ records : List Record,
      ((records.filterMap afterLoss).filter (fun record =>
        !record.subscribers.isEmpty && record.state ≠ .unsubscribing)).map entry =
      (records.filter (fun record =>
        !record.subscribers.isEmpty && record.state ≠ .unsubscribing)).map entry := by
    intro records
    induction records with
    | nil => rfl
    | cons record rest ih =>
      cases hstate : record.state <;> cases hnobody : record.subscribers.isEmpty <;>
        simpa [List.filterMap_cons, afterLoss, hstate, hnobody, entry] using ih
  exact hfilter r.records

theorem Reduced.entries (h : r.Reduced r') :
    (r'.records.map entry).Sublist (r.records.map entry) := by
  obtain ⟨f, hf, hrecords⟩ := h
  rw [hrecords]
  refine sublist_map_filterMap entry fun record hmem kept hkept => ?_
  have hremains := hf record hmem kept hkept
  rw [entry, entry, hremains.key, hremains.request]

/-- An acquisition that finds a round to join adds no channel and moves none. -/
theorem Consistent.entries_joined (h : r.Consistent) (hjoins : ¬r.Founds key)
    (request : ChannelRequest) :
    (r.acquire key request).2.records.map entry = r.records.map entry := by
  obtain ⟨old, hfind, hgeneration, hrequest⟩ := joinedAt_of_not_founds hjoins request
  have hcounted := h.numbered.counted old (mem_of_find? hfind)
  change (r.place (r.joinedAt key request)).records.map entry = _
  rw [records_place, if_neg (by omega), joinedAt_key, update, List.map_map]
  refine List.map_congr_left fun record hmem => ?_
  rw [Function.comp_apply]
  split
  · rename_i hkey
    have hsame := h.distinct.find?_of_mem hmem
    rw [hkey, hfind] at hsame
    cases hsame
    rw [entry, entry, joinedAt_key, hkey, hrequest]
  · rfl

/-- Any other puts its channel last. -/
theorem entries_founded (hfounds : r.Founds key) (request : ChannelRequest) :
    (r.acquire key request).2.records.map entry =
      (r.remove key).records.map entry ++ [(key, request)] := by
  obtain ⟨hgeneration, hrequest⟩ := joinedAt_of_founds hfounds request
  change (r.place (r.joinedAt key request)).records.map entry = _
  rw [records_place, if_pos hgeneration, joinedAt_key, List.map_append, List.map_singleton, entry,
    joinedAt_key, hrequest]

/-- A call that subscribers make keeps the order of the records, and a channel that it adds comes
last. -/
theorem Consistent.entries_of_local (h : r.Consistent) {operation : Operation ν}
    (hlocal : operation.isAcquisition ∨ operation.isRelease) :
    ∃ kept new, (r.perform operation).2.records.map entry = kept ++ new ∧
      kept.Sublist (r.records.map entry) ∧ ∀ e ∈ new, operation = .acquire e.1 e.2 := by
  cases operation with
  | acquire key request =>
    by_cases hfounds : r.Founds key
    · refine ⟨_, _, entries_founded hfounds request, (Reduced.remove r key).entries, ?_⟩
      intro e he
      rw [List.mem_singleton.mp he]
    · refine ⟨r.records.map entry, [], ?_, .refl _, by simp⟩
      rw [List.append_nil]
      exact h.entries_joined hfounds request
  | release key ticket =>
    have hreduced : r.Reduced (r.perform (.release key ticket)).2 :=
      reduced_perform h.distinct (by simp)
    exact ⟨_, [], (List.append_nil _).symm, hreduced.entries, by simp⟩
  | _ => simp [Operation.isAcquisition, Operation.isRelease] at hlocal

/-- What is listed after calls of subscribers alone: first what is left of the records there were,
in their order, and then what was taken since. By induction on the calls, the last one first. -/
theorem Consistent.entries_run (h : r.Consistent) {operations : List (Operation ν)}
    (hlocal : ∀ operation ∈ operations, operation.isAcquisition ∨ operation.isRelease) :
    ∃ survivors newcomers, (r.run operations).2.records.map entry = survivors ++ newcomers ∧
      survivors.Sublist (r.records.map entry) ∧
      ∀ e ∈ newcomers, .acquire e.1 e.2 ∈ operations := by
  induction operations using List.reverseRecOn with
  | nil => exact ⟨_, [], (List.append_nil _).symm, .refl _, by simp⟩
  | append_singleton operations operation ih =>
    obtain ⟨survivors, newcomers, hsplit, hkept, htaken⟩ :=
      ih fun other hmem => hlocal other (List.mem_append_left _ hmem)
    obtain ⟨kept, new, hnext, hsub, hnew⟩ :=
      (h.run operations).entries_of_local (hlocal operation (by simp))
    rw [hsplit] at hsub
    obtain ⟨left, right, rfl, hleft, hright⟩ := List.sublist_append_iff.mp hsub
    refine ⟨left, right ++ new, ?_, hleft.trans hkept, ?_⟩
    · rw [run_append, ← List.append_assoc]
      exact hnext
    · intro e he
      rcases List.mem_append.mp he with hold | hlast
      · exact List.mem_append_left _ (htaken e (hright.subset hold))
      · rw [hnew e hlast]
        simp

/-- A loss, what subscribers do while the connection is down, and its return. -/
def outage (offline : List (Operation ν)) : List (Operation ν) :=
  .setOnline false :: offline ++ [.setOnline true]

/-- The registry of a connection that is down. -/
abbrev down (before offline : List (Operation ν)) : Registry ν :=
  after (before ++ .setOnline false :: offline)

theorem after_outage (before offline : List (Operation ν)) :
    after (before ++ outage offline) = (down before offline).setOnline true := by
  rw [outage, ← List.append_assoc, after_concat]
  rfl

variable {before offline : List (Operation ν)}

theorem down_eq (before offline : List (Operation ν)) :
    down before offline = (((after before).setOnline false).run offline).2 := by
  rw [down, after, run_append]
  rfl

theorem isDriven_local {operations : List (Operation ν)}
    (hlocal : ∀ operation ∈ operations, operation.isAcquisition ∨ operation.isRelease) :
    IsDriven r operations := by
  induction operations generalizing r with
  | nil => trivial
  | cons operation rest ih =>
    refine ⟨fun hconfirms => ?_, ih fun other hmem => hlocal other (List.mem_cons_of_mem _ hmem)⟩
    have hfirst := hlocal operation List.mem_cons_self
    cases operation <;>
      simp_all [Operation.isAcquisition, Operation.isRelease, Operation.confirmed?]

theorem online_local {operations : List (Operation ν)}
    (hlocal : ∀ operation ∈ operations, operation.isAcquisition ∨ operation.isRelease) :
    (r.run operations).2.online = r.online := by
  induction operations generalizing r with
  | nil => rfl
  | cons operation rest ih =>
    have hrest := ih (r := (r.perform operation).2)
      fun other hmem => hlocal other (List.mem_cons_of_mem _ hmem)
    refine hrest.trans ?_
    have hfirst := hlocal operation List.mem_cons_self
    rw [online_perform]
    cases operation <;> simp_all [Operation.isAcquisition, Operation.isRelease]

theorem driven_loss (hdriven : IsDriven empty before) :
    Driven ((after before).setOnline false) :=
  (Driven.empty.run hdriven).perform (.setOnline false) (by simp [Operation.confirmed?])

theorem driven_down (hdriven : IsDriven empty before)
    (hlocal : ∀ operation ∈ offline, operation.isAcquisition ∨ operation.isRelease) :
    Driven (down before offline) ∧ (down before offline).online = false := by
  rw [down_eq]
  exact ⟨(driven_loss hdriven).run (isDriven_local hlocal), online_local hlocal⟩

/-- What is wanted when the connection comes back. -/
structure Relists (before offline : List (Operation ν)) : Prop
    extends Lists (before ++ outage offline) where
  /-- What was wanted before the loss, and still is, keeps its order and comes first. -/
  survivors : ∃ survivors newcomers,
    (after (before ++ outage offline)).wanted = survivors ++ newcomers ∧
      survivors.Sublist (after before).wanted ∧
      ∀ e ∈ newcomers, .acquire e.1 e.2 ∈ offline
  /-- Nothing is outstanding for any of them. -/
  pending : ∀ e ∈ (after (before ++ outage offline)).wanted, ∃ record,
    (after (before ++ outage offline)).find? e.1 = some record ∧ record.request = e.2 ∧
      record.state = .pending ∧ record.subscribeSent = false ∧ record.unsubscribeSent = none

theorem relists (hdriven : IsDriven empty before)
    (hlocal : ∀ operation ∈ offline, operation.isAcquisition ∨ operation.isRelease) :
    Relists before offline := by
  obtain ⟨hdown, hoffline⟩ := driven_down hdriven hlocal
  have hrecords : (after (before ++ outage offline)).records = (down before offline).records := by
    rw [after_outage]
    rfl
  refine ⟨lists _, ?_, fun e he => ?_⟩
  · have hloss : Driven ((after before).setOnline false) := driven_loss hdriven
    have hlost : ((after before).setOnline false).Consistent :=
      (consistent_empty.run before).perform (.setOnline false)
    obtain ⟨survivors, newcomers, hsplit, hkept, htaken⟩ := hlost.entries_run hlocal
    rw [← hloss.wanted_of_offline hlost rfl, wanted_loss] at hkept
    refine ⟨survivors, newcomers, ?_, hkept, htaken⟩
    rw [wanted, hrecords, ← wanted, hdown.wanted_of_offline (consistent_empty.run _) hoffline,
      down_eq]
    exact hsplit
  · have hconsistent : (after (before ++ outage offline)).Consistent := consistent_empty.run _
    obtain ⟨record, hfind, -, hrequest⟩ := hconsistent.mem_wanted.mp he
    have hearlier : (down before offline).find? e.1 = some record := by
      rw [← hfind, find?, find?, hrecords]
    obtain ⟨⟨hstate, hsent, -⟩, hmark⟩ := hdown.owes_of_offline hoffline hearlier
    exact ⟨record, hfind, hrequest, hstate, hsent, hmark⟩

end ChannelMux.Registry
