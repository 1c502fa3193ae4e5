import ChannelMux.Proofs.Registry.Listing
import ChannelMux.Proofs.Registry.Untried

/-!
What is asked for before there is a connection. The first request of a channel is the one that is
kept, and channels are listed in the order in which they were asked for first.
-/
namespace ChannelMux.Registry

variable {ν : Type} {r : Registry ν} {entries : List (ChannelKey × ChannelRequest)}

/-- Every channel of a list once, where it comes first and with the request it has there. -/
def firsts (keyOf : ChannelRequest → ChannelKey) (requests : List ChannelRequest) :
    List (ChannelKey × ChannelRequest) :=
  (requests.map fun request => (keyOf request, request)).eraseDupsBy fun later first =>
    later.1 = first.1

theorem firsts_cons (keyOf : ChannelRequest → ChannelKey) (request : ChannelRequest)
    (rest : List ChannelRequest) :
    firsts keyOf (request :: rest) =
      (keyOf request, request) :: firsts keyOf (rest.filter (keyOf · ≠ keyOf request)) := by
  rw [firsts, List.map_cons, List.eraseDupsBy_cons, firsts, List.filter_map]
  simp [Function.comp_def]

/-- There was no connection since these channels were asked for, and they are all there is. -/
structure Gathers (r : Registry ν) (entries : List (ChannelKey × ChannelRequest)) : Prop where
  consistent : r.Consistent
  offline : r.online = false
  untried : r.Untried
  listed : r.records.map entry = entries

theorem Gathers.owes (h : r.Gathers entries) {record : Record} (hmem : record ∈ r.records) :
    record.OwesSubscribe := by
  have hfind := h.consistent.distinct.find?_of_mem hmem
  have hsound := h.consistent.sound _ _ hfind
  obtain ⟨hstate, hsent, -⟩ := hsound.offline h.offline
  exact ⟨h.untried _ _ hfind, hsent, mt hsound.idle.mpr hstate⟩

theorem Gathers.once (h : r.Gathers entries) : (entries.map Prod.fst).Nodup := by
  rw [← h.listed, List.map_map]
  exact h.consistent.distinct

theorem Gathers.find? (h : r.Gathers entries) {e : ChannelKey × ChannelRequest}
    (hmem : e ∈ entries) :
    ∃ record, r.find? e.1 = some record ∧ record.OwesSubscribe ∧ record.request = e.2 := by
  rw [← h.listed] at hmem
  obtain ⟨record, hrecord, rfl⟩ := List.mem_map.mp hmem
  exact ⟨record, h.consistent.distinct.find?_of_mem hrecord, h.owes hrecord, rfl⟩

theorem Gathers.find?_eq_none (h : r.Gathers entries) {key : ChannelKey}
    (hnew : key ∉ entries.map Prod.fst) : r.find? key = none := by
  refine List.find?_eq_none.mpr fun record hmem hkey => hnew ?_
  rw [← h.listed, List.map_map]
  exact List.mem_map.mpr ⟨record, hmem, of_decide_eq_true hkey⟩

/-- A channel that was asked for before is not listed again. -/
theorem Gathers.acquire (h : r.Gathers entries) (key : ChannelKey) (request : ChannelRequest) :
    (r.acquire key request).2.Gathers
      (if key ∈ entries.map Prod.fst then entries else entries ++ [(key, request)]) := by
  have hconsistent := h.consistent.perform (.acquire key request)
  have honline : (r.acquire key request).2.online = false :=
    (online_perform r (.acquire key request)).trans h.offline
  have hquiet : (Operation.acquire key request : Operation ν).confirmed? = none := rfl
  have huntried : (r.acquire key request).2.Untried :=
    h.untried.perform h.consistent.distinct h.offline hquiet
  refine ⟨hconsistent, honline, huntried, ?_⟩
  split
  · rename_i hknown
    obtain ⟨e, hmem, rfl⟩ := List.mem_map.mp hknown
    obtain ⟨record, hfind, howes, -⟩ := h.find? hmem
    have hjoins : ¬r.Founds e.1 := by
      intro hfounds
      have hspent := (hfounds record hfind).1
      rw [howes.1] at hspent
      cases hspent
    rw [h.consistent.entries_joined hjoins, h.listed]
  · rename_i hnew
    have hnone := h.find?_eq_none hnew
    have hfounds : r.Founds key := fun record hfind => by
      rw [hnone] at hfind
      cases hfind
    have hkept : (r.remove key).records = r.records := by
      refine List.filter_eq_self.mpr fun record hmem => ?_
      simpa using List.find?_eq_none.mp hnone record hmem
    rw [entries_founded hfounds, hkept, h.listed]

/-- By induction on the list, after what was asked for before it. -/
theorem Gathers.acquire_all (h : r.Gathers entries) (keyOf : ChannelRequest → ChannelKey)
    (requests : List ChannelRequest) :
    (requests.foldl (fun r request => (r.acquire (keyOf request) request).2) r).Gathers
      (entries ++ firsts keyOf (requests.filter (keyOf · ∉ entries.map Prod.fst))) := by
  induction requests generalizing r entries with
  | nil => simpa [firsts] using h
  | cons request rest ih =>
    have hfirst := h.acquire (keyOf request) request
    rw [List.foldl_cons]
    by_cases hknown : keyOf request ∈ entries.map Prod.fst
    · rw [if_pos hknown] at hfirst
      rw [List.filter_cons_of_neg (by simpa using hknown)]
      exact ih hfirst
    · rw [if_neg hknown] at hfirst
      rw [List.filter_cons_of_pos (by simpa using hknown), firsts_cons, List.filter_filter]
      have hlater : ∀ later, decide (keyOf later ∉ (entries ++ [(keyOf request, request)]).map
          Prod.fst) = (decide (keyOf later ≠ keyOf request) &&
            decide (keyOf later ∉ entries.map Prod.fst)) := by
        intro later
        rw [List.map_append, Bool.eq_iff_iff]
        simp [and_comm]
      have hrest := ih hfirst
      simp only [hlater, List.append_assoc, List.cons_append, List.nil_append] at hrest
      exact hrest

/-- What is gathered is what a connection finds wanted. -/
theorem Gathers.wanted (h : r.Gathers entries) : (r.setOnline true).wanted = entries := by
  have hall : ∀ record ∈ r.records,
      (!record.subscribers.isEmpty && record.state ≠ .unsubscribing) = true := by
    intro record hmem
    obtain ⟨hstate, -, hheld⟩ := h.owes hmem
    simp [hstate, hheld]
  change ((r.records.filter _).map entry) = entries
  rw [List.filter_eq_self.mpr hall, h.listed]

/-- Going down again changes nothing. -/
theorem Gathers.setOnline (h : r.Gathers entries) : r.setOnline false = r :=
  h.untried.setOnline_of_offline h.consistent h.offline

/-- Reading changes nothing in what was asked for. -/
theorem Gathers.of_records {r' : Registry ν} (h : r.Gathers entries) (consistent : r'.Consistent)
    (hrecords : r'.records = r.records) (honline : r'.online = r.online) : r'.Gathers entries := by
  refine ⟨consistent, honline.trans h.offline, fun key record hfind => ?_, ?_⟩
  · have hsame : r.find? key = some record := by
      rw [← hfind, Registry.find?, Registry.find?, hrecords]
    exact h.untried key record hsame
  · rw [hrecords]
    exact h.listed

end ChannelMux.Registry
