import ChannelMux.Proofs.Registry.Cancelling

/-!
Confirmations and payloads in another order. Either makes a pending channel active, so it does not
matter which of them comes first, nor how those of different channels are mixed; only the payloads
of one channel have an order of their own.
-/
namespace ChannelMux

namespace Record

theorem fed_key (record : Record) : record.fed.key = record.key := by
  unfold fed
  split <;> rfl

theorem confirmed_subscribers (record : Record) :
    record.confirmed.subscribers = record.subscribers := by
  unfold confirmed
  split <;> rfl

theorem fed_subscribers (record : Record) : record.fed.subscribers = record.subscribers := by
  unfold fed
  split <;> rfl

/-- A confirmed record is not pending any more, and one that a payload confirmed is active. -/
theorem confirmed_fed (record : Record) : record.fed.confirmed = record.confirmed.fed := by
  have hconfirmed : record.confirmed.fed = record.confirmed := by
    refine if_neg fun hpending => ?_
    unfold confirmed at hpending
    split at hpending
    · cases hpending.2
    · rename_i hstate
      rw [hstate] at hpending
      cases hpending.2
    · rename_i hstate
      rw [hstate] at hpending
      cases hpending.2
  rw [hconfirmed]
  unfold fed
  split
  · rename_i hpending
    simp [confirmed, hpending.2]
  · rfl

end Record

namespace Registry

variable {ν : Type} {r : Registry ν} {key : ChannelKey} {a b : Operation ν}

theorem update_of_find?_none (hfind : r.find? key = none) (f : Record → Record) :
    r.update key f = r := by
  have hother : ∀ record ∈ r.records, record.key ≠ key := by
    simpa [find?, List.find?_eq_none] using hfind
  have hsame : r.records.map (fun record => if record.key = key then f record else record) =
      r.records := by
    refine (List.map_congr_left fun record hmem => ?_).trans (List.map_id r.records)
    exact if_neg (hother record hmem)
  rw [update, hsame]

theorem update_of_fixed (distinct : r.Distinct) {record : Record} (hfind : r.find? key = some record)
    {f : Record → Record} (hfixed : f record = record) : r.update key f = r := by
  have hsame : f record = id record := hfixed
  rw [update_congr distinct hfind hsame]
  simp [update]

/-- Those who hold a channel. -/
def holders (r : Registry ν) (key : ChannelKey) : List Nat :=
  (r.find? key).elim [] Record.subscribers

theorem holders_update {k : ChannelKey} {f : Record → Record}
    (hkey : ∀ record, (f record).key = record.key)
    (hsubscribers : ∀ record, (f record).subscribers = record.subscribers) :
    (r.update k f).holders key = r.holders key := by
  rw [holders, find?_update r k key f fun record h => (hkey record).trans h]
  split
  · rw [holders]
    cases r.find? key with
    | none => rfl
    | some record => exact hsubscribers record
  · rfl

theorem Consistent.holders_apart (h : r.Consistent) {k : ChannelKey} (hk : key ≠ k) {s : Nat}
    (hs : s ∈ r.holders key) : s ∉ r.holders k := by
  intro hs'
  unfold holders at hs hs'
  cases hfind : r.find? key with
  | none => simp [hfind] at hs
  | some record =>
    cases hfind' : r.find? k with
    | none => simp [hfind'] at hs'
    | some other =>
      rw [hfind] at hs
      rw [hfind'] at hs'
      have hkeys := h.numbered.apart record (mem_of_find? hfind) other (mem_of_find? hfind') s hs hs'
      rw [key_of_find? hfind, key_of_find? hfind'] at hkeys
      exact hk hkeys

theorem post_nil (r : Registry ν) (item : Except Error ν) : (r.post [] item).2 = r := by
  have hinboxes : (r.post [] item).2.inboxes = r.inboxes := by
    refine List.ext_getElem? fun s => ?_
    rw [getElem?_post]
    simp
  exact congrArg (fun inboxes => { r with inboxes }) hinboxes

/-- Posts to different subscribers may change places. -/
theorem post_comm {left right : List Nat} (hapart : ∀ s ∈ left, s ∉ right)
    (item other : Except Error ν) :
    ((r.post left item).2.post right other).2 = ((r.post right other).2.post left item).2 := by
  have hinboxes : ((r.post left item).2.post right other).2.inboxes =
      ((r.post right other).2.post left item).2.inboxes := by
    refine List.ext_getElem? fun s => ?_
    simp only [getElem?_post, Option.map_map]
    congr 1
    funext inbox
    by_cases hs : s ∈ left
    · simp [hs, hapart s hs]
    · simp [hs]
  exact congrArg (fun inboxes => { r with inboxes }) hinboxes

theorem activate_eq (distinct : r.Distinct) (key : ChannelKey) :
    (r.activate key).2 = r.update key Record.confirmed := by
  cases hfind : r.find? key with
  | none =>
    rw [update_of_find?_none hfind]
    simp only [activate, hfind]
  | some record => exact activate_eq_update distinct hfind

/-- A payload goes to all who hold the channel. Where it is turned away, nobody does. -/
theorem Consistent.dispatch_eq (h : r.Consistent) (key : ChannelKey) (payload : ν) :
    (r.dispatch key payload).2 =
      ((r.update key Record.fed).post (r.holders key) (.ok payload)).2 := by
  cases hfind : r.find? key with
  | none =>
    rw [update_of_find?_none hfind, holders, hfind, Option.elim_none, post_nil]
    simp only [dispatch, hfind]
  | some record =>
    simp only [dispatch, holders, hfind, Option.elim_some]
    split
    · rename_i hclosed
      have hnobody : record.subscribers = [] :=
        hclosed.elim id (h.sound key record hfind).idle.mp
      have hunfed : record.fed = record := if_neg fun hheld => hheld.1 hnobody
      rw [hnobody, update_of_fixed h.distinct hfind hunfed, post_nil]
    · rename_i hopen
      obtain ⟨hheld, -⟩ := not_or.mp hopen
      have hfed : (if record.state = .pending then
          r.update key (fun record => { record with state := .active, subscribeSent := false })
        else r) = r.update key Record.fed := by
        split
        · rename_i hstate
          exact update_congr h.distinct hfind (by simp [Record.fed, hheld, hstate])
        · rename_i hstate
          have hunfed : record.fed = record := if_neg fun hfed => hstate hfed.2
          exact (update_of_fixed h.distinct hfind hunfed).symm
      rw [hfed]

/-- The calls do not both post to one channel. -/
def Operation.Independent (a b : Operation ν) : Prop :=
  ∀ key, a.posts? key = none ∨ b.posts? key = none

theorem Operation.independent_activate (key : ChannelKey) (b : Operation ν) :
    (Operation.activate key).Independent b :=
  fun _ => Or.inl rfl

theorem update_confirmed_fed (k key : ChannelKey) :
    (r.update k Record.confirmed).update key Record.fed =
      (r.update key Record.fed).update k Record.confirmed := by
  by_cases hk : k = key
  · subst hk
    rw [update_update Record.confirmed_key, update_update Record.fed_key]
    congr 1
    funext record
    exact record.confirmed_fed.symm
  · exact update_update_of_ne (Ne.symm hk) (fun record h => (Record.fed_key record).trans h)
      Record.confirmed_key

theorem Consistent.activate_dispatch (h : r.Consistent) (k key : ChannelKey) (payload : ν) :
    ((r.activate k).2.dispatch key payload).2 = ((r.dispatch key payload).2.activate k).2 := by
  have hactivated : (r.activate k).2.Consistent := h.perform (.activate k)
  have hdispatched : (r.dispatch key payload).2.Consistent := h.perform (.dispatch key payload)
  rw [hactivated.dispatch_eq, activate_eq hdispatched.distinct, h.dispatch_eq,
    activate_eq h.distinct, holders_update Record.confirmed_key Record.confirmed_subscribers,
    update_confirmed_fed]
  rfl

theorem Consistent.dispatch_dispatch (h : r.Consistent) {k key : ChannelKey} (hk : k ≠ key)
    (payload other : ν) :
    ((r.dispatch k payload).2.dispatch key other).2 =
      ((r.dispatch key other).2.dispatch k payload).2 := by
  have hfirst : (r.dispatch k payload).2.Consistent := h.perform (.dispatch k payload)
  have hsecond : (r.dispatch key other).2.Consistent := h.perform (.dispatch key other)
  have hholders : ∀ left right : ChannelKey, ∀ posted : ν,
      (r.dispatch left posted).2.holders right = r.holders right := by
    intro left right posted
    rw [h.dispatch_eq]
    exact holders_update Record.fed_key Record.fed_subscribers
  have hupdates : (r.update k Record.fed).update key Record.fed =
      (r.update key Record.fed).update k Record.fed :=
    update_update_of_ne (Ne.symm hk) (fun record h => (Record.fed_key record).trans h)
      Record.fed_key
  have hposts := post_comm (r := (r.update k Record.fed).update key Record.fed)
    (fun s hs => h.holders_apart hk hs) (.ok payload) (.ok other)
  rw [hfirst.dispatch_eq, hsecond.dispatch_eq, hholders, hholders, h.dispatch_eq, h.dispatch_eq]
  refine hposts.trans ?_
  rw [hupdates]
  rfl

/-- Two confirmations may change places, unless both are payloads of one channel. -/
theorem Consistent.perform_comm (h : r.Consistent) (ha : a.confirmed?.isSome = true)
    (hb : b.confirmed?.isSome = true) (hapart : a.Independent b) :
    ((r.perform a).2.perform b).2 = ((r.perform b).2.perform a).2 := by
  cases a with
  | activate k =>
    cases b with
    | activate key =>
      by_cases hk : k = key
      · rw [hk]
      · have hleft : (r.activate k).2.Distinct := h.distinct.perform (.activate k)
        have hright : (r.activate key).2.Distinct := h.distinct.perform (.activate key)
        change ((r.activate k).2.activate key).2 = ((r.activate key).2.activate k).2
        rw [activate_eq hleft, activate_eq hright, activate_eq h.distinct, activate_eq h.distinct]
        exact update_update_of_ne (Ne.symm hk)
          (fun record hkey => record.confirmed_key.trans hkey) Record.confirmed_key
    | dispatch key payload => exact h.activate_dispatch k key payload
    | _ => cases hb
  | dispatch k payload =>
    cases b with
    | activate key => exact (h.activate_dispatch key k payload).symm
    | dispatch key other =>
      have hk : k ≠ key := by
        rintro rfl
        simpa [Operation.posts?] using hapart k
      exact h.dispatch_dispatch hk payload other
    | _ => cases hb
  | _ => cases ha

/-- A confirmation that depends on none of those before it may come first. -/
theorem Consistent.run_middle (h : r.Consistent) {before : List (Operation ν)}
    (ha : a.confirmed?.isSome = true)
    (hbefore : ∀ b ∈ before, b.confirmed?.isSome = true ∧ a.Independent b)
    (after : List (Operation ν)) :
    (r.run (before ++ a :: after)).2 = (r.run (a :: (before ++ after))).2 := by
  induction before generalizing r with
  | nil => rfl
  | cons b rest ih =>
    obtain ⟨⟨hb, hapart⟩, hrest⟩ := List.forall_mem_cons.mp hbefore
    rw [List.cons_append, run_cons, ih (h.perform b) hrest, run_cons, run_cons, List.cons_append,
      run_cons, h.perform_comm ha hb hapart]

/-- What calls post to the holders of a channel, in order. -/
def posted (key : ChannelKey) (operations : List (Operation ν)) : List (Except Error ν) :=
  operations.filterMap (Operation.posts? key)

/-- A confirmation is found again in another order, behind others that do not depend on it. -/
theorem exists_independent_split {rest second : List (Operation ν)}
    (ha : a.confirmed?.isSome = true) (hperm : (a :: rest).Perm second)
    (hordered : ∀ key, posted key (a :: rest) = posted key second) :
    ∃ before after, second = before ++ a :: after ∧ ∀ b ∈ before, a.Independent b := by
  cases a with
  | activate k =>
    obtain ⟨before, after, hsecond⟩ :=
      List.append_of_mem (hperm.mem_iff.mp List.mem_cons_self)
    exact ⟨before, after, hsecond, fun b _ => Operation.independent_activate k b⟩
  | dispatch k payload =>
    -- the first payload of the channel is the same in either order
    have hposts : (Operation.dispatch k payload).posts? k = some (.ok payload) := if_pos rfl
    have hfirst : posted k second = .ok payload :: posted k rest := by
      rw [← hordered k, posted, List.filterMap_cons_some hposts, posted]
    obtain ⟨before, found, after, hsecond, hnone, hfound, -⟩ :=
      List.filterMap_eq_cons_iff.mp hfirst
    have hsame : found = .dispatch k payload := by
      cases found with
      | dispatch k' other =>
        obtain ⟨rfl, rfl⟩ : k' = k ∧ other = payload := by
          simpa [Operation.posts?] using hfound
        rfl
      | fail k' error => simp [Operation.posts?] at hfound
      | _ => cases hfound
    refine ⟨before, after, hsame ▸ hsecond, fun b hb key => ?_⟩
    by_cases hk : k = key
    · exact Or.inr (hk ▸ hnone b hb)
    · exact Or.inl (if_neg hk)
  | _ => cases ha

/-- By induction on one order. Each call of it is looked for in the other, and brought to the
front. -/
theorem Consistent.run_perm (h : r.Consistent) {first second : List (Operation ν)}
    (hconfirm : ∀ a ∈ first, a.confirmed?.isSome = true) (hperm : first.Perm second)
    (hordered : ∀ key, posted key first = posted key second) :
    (r.run first).2 = (r.run second).2 := by
  induction first generalizing r second with
  | nil => rw [hperm.nil_eq]
  | cons a rest ih =>
    obtain ⟨ha, hrest⟩ := List.forall_mem_cons.mp hconfirm
    obtain ⟨before, after, rfl, hapart⟩ := exists_independent_split ha hperm hordered
    have hleft : rest.Perm (before ++ after) :=
      (hperm.trans List.perm_middle).cons_inv
    have hleftOrdered : ∀ key, posted key rest = posted key (before ++ after) := by
      intro key
      have hkey := hordered key
      simp only [posted, List.filterMap_append] at hkey ⊢
      cases hposts : a.posts? key with
      | none => rwa [List.filterMap_cons_none hposts, List.filterMap_cons_none hposts] at hkey
      | some item =>
        have hnone : before.filterMap (Operation.posts? key) = [] := by
          refine List.filterMap_eq_nil_iff.mpr fun b hb => (hapart b hb key).resolve_left ?_
          simp [hposts]
        rw [List.filterMap_cons_some hposts, List.filterMap_cons_some hposts, hnone] at hkey
        rw [hnone]
        exact List.tail_eq_of_cons_eq hkey
    have hbefore : ∀ b ∈ before, b.confirmed?.isSome = true ∧ a.Independent b :=
      fun b hb => ⟨hrest b (hleft.mem_iff.mpr (List.mem_append_left _ hb)), hapart b hb⟩
    rw [h.run_middle ha hbefore, run_cons, run_cons]
    exact ih (h.perform a) hrest hleft hleftOrdered

/-- The registries that calls lead to, with readers who take what their inboxes hold, or close them,
at any time. -/
inductive InUse : Registry ν → Prop where
  | empty : InUse Registry.empty
  | perform {r : Registry ν} (operation : Operation ν) : InUse r → InUse (r.perform operation).2
  | receive {r : Registry ν} (subscriber : Nat) : InUse r → InUse (r.receive subscriber).2
  | closeInbox {r : Registry ν} (subscriber : Nat) : InUse r → InUse (r.closeInbox subscriber)

theorem InUse.run (h : InUse r) (operations : List (Operation ν)) : InUse (r.run operations).2 := by
  induction operations generalizing r with
  | nil => exact h
  | cons operation rest ih => exact ih (h.perform operation)

theorem InUse.consistent (h : InUse r) : r.Consistent := by
  induction h with
  | empty => exact consistent_empty
  | perform operation _ ih => exact ih.perform operation
  | receive subscriber _ ih => exact ih.editInbox subscriber _
  | closeInbox subscriber _ ih => exact ih.editInbox subscriber _

/-- Whichever way acknowledgements and payloads are mixed, as long as the payloads of each channel
keep their order, they leave the same records and the same items in every inbox. -/
theorem confirmations_commute (inUse : InUse r) {first second : List (Operation ν)}
    (confirm : ∀ operation ∈ first, operation.confirmed?.isSome = true)
    (perm : first.Perm second) (ordered : ∀ key, posted key first = posted key second) :
    (r.run first).2 = (r.run second).2 :=
  inUse.consistent.run_perm confirm perm ordered

def tickers : ChannelKey := ⟨"tickers:BTC"⟩

/-- Two channels asked for. One of them has a second subscriber, who does not read any more. -/
def askedForTwo : Registry Nat :=
  ((empty : Registry Nat).run
    [.setOnline true, .acquire trades tradesRequest, .acquire tickers ⟨"tickers", ["BTC"]⟩,
      .acquire trades tradesRequest, .beginSubscribe trades, .beginSubscribe tickers]).2.closeInbox 2

/-- Each acknowledgement first. -/
def acknowledgedFirst : List (Operation Nat) :=
  [.activate trades, .dispatch trades 7, .dispatch trades 8, .activate tickers,
    .dispatch tickers 5]

/-- Each acknowledgement after a payload, and the channels mixed. -/
def overtaken : List (Operation Nat) :=
  [.dispatch tickers 5, .dispatch trades 7, .activate tickers, .dispatch trades 8,
    .activate trades]

theorem overtaken_confirmations_commute :
    acknowledgedFirst ≠ overtaken ∧
      (askedForTwo.run acknowledgedFirst).2 = (askedForTwo.run overtaken).2 := by
  have hperm : acknowledgedFirst.Perm overtaken := by decide
  have hordered : ∀ key, posted key acknowledgedFirst = posted key overtaken := by
    intro key
    by_cases htrades : trades = key
    · subst htrades
      rfl
    · by_cases htickers : tickers = key
      · subst htickers
        rfl
      · simp [posted, acknowledgedFirst, overtaken, List.filterMap_cons, Operation.posts?, htrades,
          htickers]
  exact ⟨by decide, confirmations_commute ((InUse.empty.run _).closeInbox 2) (by decide) hperm
    hordered⟩

end Registry

end ChannelMux
