import ChannelMux.Proofs.Registry.Owing
import ChannelMux.Proofs.Registry.Renaming
import ChannelMux.Proofs.Registry.Sharing

/-!
An unsubscribe that is cancelled before it was written. Two registries run side by side: in one the
last subscriber of a channel has left, in the other it has not, and the first is the second with the
channel withdrawn.
-/
namespace ChannelMux

namespace Record

/-- A record that its last subscriber has left. -/
def withdrawn (record : Record) : Record :=
  { record with subscribers := [], resumeState := record.state, state := .unsubscribing }

theorem withdrawn_key (record : Record) : record.withdrawn.key = record.key := rfl

theorem confirmed_key (record : Record) : record.confirmed.key = record.key := by
  unfold confirmed
  split <;> rfl

/-- A record with a new subscriber in place of the last one. The state to go back to, which nothing
reads until the next release, is what is left of the one before. -/
def handed (record : Record) (subscriber : Nat) : Record :=
  { record with subscribers := [subscriber], resumeState := record.state }

/-- A record of the same round as another, whose subscription the exchange has or was asked for, and
which nobody is giving up. -/
structure Stands (record current : Record) : Prop where
  request : current.request = record.request
  generation : current.generation = record.generation
  subscribers : current.subscribers = record.subscribers
  state : current.state ≠ .unsubscribing
  live : current.liveOnWire = true
  unsent : current.unsubscribeSent = none

variable {record current : Record}

theorem Stands.not_owesSubscribe (h : record.Stands current) : ¬current.OwesSubscribe := by
  intro howes
  have hlive := h.live
  simp [liveOnWire, howes.1, howes.2.1] at hlive

theorem Stands.confirmed (h : record.Stands current) : record.Stands current.confirmed := by
  have hunsent := h.unsent
  unfold Record.confirmed
  split
  · exact ⟨h.request, h.generation, h.subscribers, by simp, by simp [liveOnWire], hunsent⟩
  · rename_i hstate
    exact absurd hstate h.state
  · rename_i hstate
    exact ⟨h.request, h.generation, h.subscribers, by simp [hstate], by simp [liveOnWire, hstate],
      hunsent⟩

theorem Stands.subscribing (h : record.Stands current) (online : Bool) :
    current.subscribing online = current :=
  if_neg fun howes => h.not_owesSubscribe howes.2

theorem swept_of_unsent (h : record.unsubscribeSent = none) (now timeout : Nat) :
    record.swept now timeout = some record := by
  simp [swept, Registry.isOverdue, h]

/-- Joining a record again cancels the unsubscribe that was not written. -/
theorem reopened_withdrawn (h : record.unsubscribeSent = none) (request : ChannelRequest)
    (generation : Nat) : record.withdrawn.reopened request generation =
      { record with subscribers := [], resumeState := record.state } := by
  have hstate : record.withdrawn.state = .unsubscribing := rfl
  have hunsent : ¬record.withdrawn.unsubscribeSent.isSome = true := by simp [withdrawn, h]
  unfold reopened
  rw [if_pos hstate, if_neg hunsent]
  rfl

/-- A confirmation that comes after the last subscriber has left is taken note of all the same. -/
theorem Stands.confirmed_withdrawn (h : record.Stands current) :
    current.withdrawn.confirmed = current.confirmed.withdrawn := by
  have hstate := h.state
  cases current with
  | mk key request generation state subscribers subscribeSent unsubscribeSent resumeState =>
    cases state with
    | pending | active => rfl
    | unsubscribing => exact absurd rfl hstate

end Record

namespace Registry

variable {ν : Type} {r : Registry ν} {key k : ChannelKey}

theorem update_update_of_ne (hk : k ≠ key) {f g : Record → Record}
    (hf : ∀ record, record.key = k → (f record).key = k)
    (hg : ∀ record, (g record).key = record.key) :
    (r.update key g).update k f = (r.update k f).update key g := by
  simp only [update, List.map_map]
  congr 1
  apply List.map_congr_left
  intro record _
  by_cases hrecord : record.key = key
  · simp [hrecord, hg, Ne.symm hk]
  · by_cases hother : record.key = k
    · simp [hother, hf record hother, hk]
    · simp [hrecord, hother]

theorem remove_update {g : Record → Record} (hg : ∀ record, (g record).key = record.key) :
    (r.update key g).remove k = (r.remove k).update key g := by
  simp only [update, remove, List.filter_map]
  congr 3
  funext record
  simp only [Function.comp_apply]
  split
  · rw [hg]
  · rfl

theorem post_update (g : Record → Record) (subscribers : List Nat) (item : Except Error ν) :
    (r.update key g).post subscribers item =
      ((r.post subscribers item).1, (r.post subscribers item).2.update key g) := rfl

theorem place_update {record : Record} (hne : record.key ≠ key) {g : Record → Record}
    (hg : ∀ record, (g record).key = record.key) :
    (r.update key g).place record = (r.place record).update key g := by
  have hgeneration : (r.update key g).nextGeneration = r.nextGeneration := rfl
  unfold place
  rw [hgeneration, remove_update hg, update_update_of_ne hne (fun _ _ => rfl) hg]
  split
  · simp [update, hne]
  · rfl

/-- A call about another channel goes as it would if this channel's record were not revised. -/
theorem perform_update_of_ne {operation : Operation ν} (hk : operation.key? = some k)
    (hne : k ≠ key) {g : Record → Record} (hg : ∀ record, (g record).key = record.key) :
    (r.update key g).perform operation =
      ((r.perform operation).1, (r.perform operation).2.update key g) := by
  have hfind : (r.update key g).find? k = r.find? k := by
    rw [find?_update _ _ _ _ fun record h => (hg record).trans h, if_neg (Ne.symm hne)]
  have honline : (r.update key g).online = r.online := rfl
  cases operation with
  | setOnline up => cases hk
  | expire now timeout => cases hk
  | acquire k' request =>
    cases hk
    have hplace : (r.update key g).place (r.joinedAt k request) =
        (r.place (r.joinedAt k request)).update key g :=
      place_update (by rw [joinedAt_key]; exact hne) hg
    simp only [perform, acquire, Prod.map, id, hfind]
    exact congrArg (fun placed : Registry ν => (_, { placed with
      inboxes := r.inboxes ++ [Inbox.empty], nextGeneration := r.nextGeneration + 1 })) hplace
  | _ =>
    cases hk
    simp only [perform, release, activate, fail, unsubscribeAcked, forget, beginSubscribe,
      beginUnsubscribe, dispatch, Prod.map_snd, id, hfind, honline]
    repeat' split
    all_goals simp [Prod.map, remove_update hg, update_update_of_ne hne _ hg, post_update]

theorem Distinct.eq_of_key (distinct : r.Distinct) {record other : Record}
    (hfind : r.find? key = some record) (hmem : other ∈ r.records) (hkey : other.key = key) :
    other = record := by
  have hother := distinct.find?_of_mem hmem
  rw [hkey, hfind] at hother
  exact (Option.some.inj hother).symm

theorem update_congr (distinct : r.Distinct) {record : Record} (hfind : r.find? key = some record)
    {f g : Record → Record} (hsame : f record = g record) : r.update key f = r.update key g := by
  unfold update
  congr 1
  apply List.map_congr_left
  intro other hother
  split
  · rename_i hkey
    rw [distinct.eq_of_key hfind hother hkey]
    exact hsame
  · rfl

theorem update_update {f g : Record → Record} (hg : ∀ record, (g record).key = record.key) :
    (r.update key g).update key f = r.update key (f ∘ g) := by
  simp only [update, List.map_map]
  congr 1
  apply List.map_congr_left
  intro record _
  by_cases hkey : record.key = key
  · simp [hkey, hg]
  · simp [hkey]

/-- The registry as it is when the last subscriber of `key` has left. -/
def withdraw (r : Registry ν) (key : ChannelKey) : Registry ν := r.update key Record.withdrawn

theorem find?_withdraw (r : Registry ν) (key : ChannelKey) :
    (r.withdraw key).find? key = (r.find? key).map Record.withdrawn := by
  rw [withdraw, find?_update r key key Record.withdrawn fun _ h => h, if_pos rfl]

theorem find?_withdraw_of_find? {current : Record} (hfind : r.find? key = some current) :
    (r.withdraw key).find? key = some current.withdrawn := by
  rw [find?_withdraw, hfind, Option.map_some]

/-- A payload for `key`. -/
def Operation.feeds (key : ChannelKey) : Operation ν → Bool
  | .dispatch k _ => k = key
  | _ => false

/-- Calls that may come between a release of `key` and the acquisition that cancels it. -/
def Operation.bides (key : ChannelKey) : Operation ν → Bool
  | .activate _ | .beginSubscribe _ | .dispatch _ _ | .expire _ _ => true
  | .setOnline _ => false
  | operation => operation.key? ≠ some key

theorem stands_perform (distinct : r.Distinct) {record current : Record}
    (hfind : r.find? key = some current) (h : record.Stands current) {operation : Operation ν}
    (hbides : operation.bides key = true) (hfeeds : operation.feeds key = false) :
    ∃ next, (r.perform operation).2.find? key = some next ∧ record.Stands next := by
  have hrevision := revision distinct hfind operation
  generalize hresult : (r.perform operation).2.find? key = result at hrevision
  cases hrevision with
  | same => exact ⟨current, rfl, h⟩
  | activate => exact ⟨_, rfl, h.confirmed⟩
  | beginSubscribe => exact ⟨current, congrArg some (h.subscribing r.online), h⟩
  | expire now timeout hswept =>
    rw [Record.swept_of_unsent h.unsent] at hswept
    exact ⟨current, hswept.symm, h⟩
  | dispatch payload => simp [Operation.feeds] at hfeeds
  | loss => cases hbides
  | acquire | release | fail | unsubscribeAcked | forget | beginUnsubscribe =>
    simp [Operation.bides, Operation.key?] at hbides

theorem Distinct.withdraw (distinct : r.Distinct) (key : ChannelKey) : (r.withdraw key).Distinct :=
  distinct.update key Record.withdrawn fun _ h => h

theorem activate_eq_update (distinct : r.Distinct) {current : Record}
    (hfind : r.find? key = some current) :
    (r.activate key).2 = r.update key Record.confirmed := by
  simp only [activate, hfind]
  split
  all_goals
    rename_i hstate
    exact update_congr distinct hfind (by simp [Record.confirmed, hstate])

theorem activate_withdraw (distinct : r.Distinct) {record current : Record}
    (hfind : r.find? key = some current) (h : record.Stands current) :
    ((r.withdraw key).activate key).2 = (r.activate key).2.withdraw key := by
  have hwithdrawn := find?_withdraw_of_find? hfind
  rw [activate_eq_update (distinct.withdraw key) hwithdrawn, activate_eq_update distinct hfind,
    withdraw, withdraw, update_update Record.withdrawn_key, update_update Record.confirmed_key]
  exact update_congr distinct hfind h.confirmed_withdrawn

theorem beginSubscribe_of_not_owes {current : Record} (hfind : r.find? key = some current)
    (h : ¬current.OwesSubscribe) : r.beginSubscribe key = (none, r) := by
  unfold beginSubscribe
  split
  · rfl
  · simp only [hfind]
    rw [if_pos (current.not_owesSubscribe.mp h)]

theorem expire_eq (r : Registry ν) (now timeout : Nat) : (r.expire now timeout).2 =
    { r with records := r.records.filterMap (·.swept now timeout) } := by
  simp [expire, Record.swept]

theorem expire_withdraw (distinct : r.Distinct) {current : Record}
    (hfind : r.find? key = some current) (h : current.unsubscribeSent = none) (now timeout : Nat) :
    ((r.withdraw key).expire now timeout).2 = (r.expire now timeout).2.withdraw key := by
  rw [expire_eq, expire_eq]
  simp only [withdraw, update, List.filterMap_map, List.map_filterMap]
  congr 1
  apply List.filterMap_congr
  intro record hmem
  by_cases hkey : record.key = key
  · obtain rfl := distinct.eq_of_key hfind hmem hkey
    simp [hkey, Record.swept_of_unsent, h, Record.withdrawn]
  · have hrest : ∀ kept, record.swept now timeout = some kept → kept.key ≠ key := by
      intro kept hkept
      rw [(Record.remains_swept hkept).key]
      exact hkey
    simp only [Function.comp_apply, if_neg hkey]
    cases hkept : record.swept now timeout with
    | none => rfl
    | some kept => rw [Option.map_some, if_neg (hrest kept hkept)]

/-- What may be done meanwhile that is no payload for the channel. -/
theorem Operation.bides_cases {operation : Operation ν} (hbides : operation.bides key = true)
    (hfeeds : operation.feeds key = false) :
    operation = .activate key ∨ operation = .beginSubscribe key ∨
      (∃ now timeout, operation = .expire now timeout) ∨
        ∃ k, operation.key? = some k ∧ k ≠ key := by
  cases operation with
  | setOnline up => cases hbides
  | expire now timeout => exact Or.inr (Or.inr (Or.inl ⟨now, timeout, rfl⟩))
  | activate k | beginSubscribe k =>
    by_cases hk : k = key
    · simp [hk]
    · exact Or.inr (Or.inr (Or.inr ⟨k, rfl, hk⟩))
  | dispatch k payload =>
    exact Or.inr (Or.inr (Or.inr ⟨k, rfl, by simpa [feeds] using hfeeds⟩))
  | _ => exact Or.inr (Or.inr (Or.inr ⟨_, rfl, by simpa [bides, key?] using hbides⟩))

/-- While the unsubscribe is not written, a call does with the channel withdrawn what it does
otherwise. -/
theorem perform_withdraw (distinct : r.Distinct) {record current : Record}
    (hfind : r.find? key = some current) (h : record.Stands current) {operation : Operation ν}
    (hbides : operation.bides key = true) (hfeeds : operation.feeds key = false) :
    ((r.withdraw key).perform operation).2 = (r.perform operation).2.withdraw key := by
  rcases Operation.bides_cases hbides hfeeds with
    rfl | rfl | ⟨now, timeout, rfl⟩ | ⟨k, hkey, hk⟩
  · exact activate_withdraw distinct hfind h
  · have hwithdrawn := find?_withdraw_of_find? hfind
    simp only [perform, beginSubscribe_of_not_owes hfind h.not_owesSubscribe,
      beginSubscribe_of_not_owes hwithdrawn fun howes => howes.2.2 rfl]
    rfl
  · exact expire_withdraw distinct hfind h.unsent now timeout
  · rw [withdraw, perform_update_of_ne hkey hk Record.withdrawn_key, withdraw]

/-- A withdrawn channel takes no payload. -/
theorem dispatch_withdraw (r : Registry ν) (key : ChannelKey) (payload : ν) :
    (r.withdraw key).dispatch key payload = (.noSubscribers, r.withdraw key) := by
  unfold dispatch
  rw [find?_withdraw]
  cases r.find? key with
  | none => rfl
  | some current => rfl

theorem perform_feeds_withdraw (r : Registry ν) {operation : Operation ν}
    (hfeeds : operation.feeds key = true) :
    (r.withdraw key).perform operation = (.dispatched .noSubscribers, r.withdraw key) := by
  cases operation with
  | dispatch k payload =>
    obtain rfl : k = key := by simpa [Operation.feeds] using hfeeds
    rw [perform, dispatch_withdraw]
    rfl
  | _ => cases hfeeds

/-- A call, with its answer, that hands out no subscribe of `key` and is not a payload that anybody
gets. -/
def Unheeded (key : ChannelKey) (event : Operation ν × Answer) : Prop :=
  asksFor key event = false ∧
    (event.1.feeds key = true → event.2 = .dispatched .noSubscribers)

theorem unheeded_withdraw (r : Registry ν) (key : ChannelKey) (operation : Operation ν) :
    Unheeded key (operation, ((r.withdraw key).perform operation).1) := by
  constructor
  · rw [← Bool.not_eq_true, asksFor_iff, find?_withdraw]
    intro hasks
    obtain ⟨-, -, record, hfind, howes⟩ := hasks
    obtain ⟨current, -, rfl⟩ := Option.map_eq_some_iff.mp hfind
    exact howes.2.2 rfl
  · intro hfeeds
    rw [perform_feeds_withdraw r hfeeds]

/-- The calls of a list without the payloads for `key`. -/
def unfed (key : ChannelKey) (operations : List (Operation ν)) : List (Operation ν) :=
  operations.filter (fun operation => !operation.feeds key)

/-- The channel stays withdrawn from what becomes of the registry otherwise, but for the payloads,
which nobody gets. By induction on the calls. -/
theorem run_withdraw (h : r.Consistent) {record current : Record}
    (hfind : r.find? key = some current) (hstands : record.Stands current)
    {between : List (Operation ν)} (hbides : ∀ operation ∈ between, operation.bides key = true) :
    (∃ last, (r.run (unfed key between)).2.find? key = some last ∧ record.Stands last) ∧
      ((r.withdraw key).run between).2 = (r.run (unfed key between)).2.withdraw key ∧
        ∀ event ∈ (r.withdraw key).events between, Unheeded key event := by
  induction between generalizing r current with
  | nil => exact ⟨⟨current, hfind, hstands⟩, rfl, by simp [events]⟩
  | cons operation rest ih =>
    obtain ⟨hfirst, hrest⟩ := List.forall_mem_cons.mp hbides
    have hunheeded := unheeded_withdraw r key operation
    rw [events_cons, List.forall_mem_cons, run_cons]
    cases hfeeds : operation.feeds key with
    | true =>
      have hunfed : unfed key (operation :: rest) = unfed key rest := by simp [unfed, hfeeds]
      obtain ⟨hlast, hrun, hevents⟩ := ih h hfind hstands hrest
      have hskip : ((r.withdraw key).perform operation).2 = r.withdraw key := by
        rw [perform_feeds_withdraw r hfeeds]
      rw [hunfed, hskip]
      exact ⟨hlast, hrun, hunheeded, hevents⟩
    | false =>
      have hunfed : unfed key (operation :: rest) = operation :: unfed key rest := by
        simp [unfed, hfeeds]
      obtain ⟨next, hnext, hstands'⟩ := stands_perform h.distinct hfind hstands hfirst hfeeds
      obtain ⟨hlast, hrun, hevents⟩ := ih (h.perform operation) hnext hstands' hrest
      rw [hunfed, run_cons, perform_withdraw h.distinct hfind hstands hfirst hfeeds]
      exact ⟨hlast, hrun, hunheeded, hevents⟩

theorem release_last {record : Record} {s : Nat} (hup : r.online = true)
    (hfind : r.find? key = some record) (halone : record.subscribers = [s])
    (hlive : record.liveOnWire = true) :
    r.release key ⟨record.generation, s⟩ = (.unsubscribe, r.withdraw key) := by
  have hplace : ¬(record.generation ≠ record.generation ∨ s ∉ record.subscribers) := by
    simp [halone]
  have hleft : ¬record.subscribers.filter (fun other => other ≠ s) ≠ [] := by
    simp [halone]
  simp only [release, hfind]
  rw [if_neg hplace, if_neg hleft, hup, hlive]
  rfl

/-- An acquisition takes up the record where it was left. -/
theorem acquire_withdraw (h : r.Consistent) {current : Record}
    (hfind : r.find? key = some current) (hunsent : current.unsubscribeSent = none)
    (request : ChannelRequest) :
    (r.withdraw key).acquire key request = (⟨⟨current.generation, r.inboxes.length⟩, true⟩,
      { r.update key (·.handed r.inboxes.length) with
        inboxes := r.inboxes ++ [Inbox.empty]
        nextGeneration := r.nextGeneration + 1 }) := by
  have hjoined : (r.withdraw key).joinedAt key request = current.handed r.inboxes.length := by
    simp only [joinedAt, find?_withdraw_of_find? hfind, Record.joined,
      Record.reopened_withdrawn hunsent]
    rfl
  have hplace : (r.withdraw key).place (current.handed r.inboxes.length) =
      r.update key (·.handed r.inboxes.length) := by
    have hold : current.generation ≠ r.nextGeneration :=
      Nat.ne_of_lt (h.numbered.counted current (mem_of_find? hfind))
    have hkey : current.key = key := key_of_find? hfind
    change (if current.generation = r.nextGeneration then _
      else (r.withdraw key).update current.key (fun _ => current.handed r.inboxes.length)) = _
    rw [if_neg hold, hkey, withdraw, update_update Record.withdrawn_key]
    exact update_congr h.distinct hfind rfl
  refine Prod.ext ?_ ?_
  · simp only [acquire, find?_withdraw_of_find? hfind, Record.reopened_withdrawn hunsent]
    rfl
  · change { (r.withdraw key).place ((r.withdraw key).joinedAt key request) with
      inboxes := r.inboxes ++ [Inbox.empty], nextGeneration := r.nextGeneration + 1 } = _
    rw [hjoined, hplace]

theorem wanted_handed (distinct : r.Distinct) {record current : Record}
    (hfind : r.find? key = some current) (h : record.Stands current)
    (hheld : record.subscribers ≠ []) (s : Nat) :
    (r.update key (·.handed s)).wanted = r.wanted := by
  have hkept : ∀ other ∈ r.records,
      (!(if other.key = key then other.handed s else other).subscribers.isEmpty &&
        decide ((if other.key = key then other.handed s else other).state ≠ .unsubscribing)) =
      (!other.subscribers.isEmpty && decide (other.state ≠ .unsubscribing)) := by
    intro other hother
    split
    · rename_i hkey
      obtain rfl := distinct.eq_of_key hfind hother hkey
      have hsubscribers : other.subscribers.isEmpty = false := by
        rw [h.subscribers]
        simpa using hheld
      rw [hsubscribers]
      rfl
    · rfl
  simp only [wanted, update, List.filter_map, List.map_map, Function.comp_def]
  rw [List.filter_congr hkept]
  apply List.map_congr_left
  intro other _
  split <;> rfl

/-- What a subscriber who comes back finds of a channel that its last subscriber had left, and what
was done in between. -/
structure Cancels (key : ChannelKey) (record : Record) (between : List (Operation ν × Answer))
    (undisturbed : Registry ν) (rejoined : Acquired × Registry ν) : Prop where
  /-- In between no subscribe of the channel is handed out and none of its payloads delivered. -/
  unheeded : ∀ event ∈ between, Unheeded key event
  first : rejoined.1.first = true
  unread : rejoined.2.inboxes[rejoined.1.ticket.subscriber]? = some Inbox.empty
  /-- The record goes on as if it had never been left. -/
  resumed : ∃ current last, undisturbed.find? key = some current ∧
    rejoined.2.find? key = some last ∧ last.request = record.request ∧
      last.generation = record.generation ∧ last.state = current.state ∧
        last.subscribeSent = current.subscribeSent ∧
          last.unsubscribeSent = current.unsubscribeSent
  /-- The channels that are wanted are the same, in the same order. -/
  listed : rejoined.2.wanted = undisturbed.wanted
  /-- Nothing else is different. -/
  same : rejoined.2 = { undisturbed.update key (·.handed undisturbed.inboxes.length) with
    inboxes := undisturbed.inboxes ++ [Inbox.empty]
    nextGeneration := undisturbed.nextGeneration + 1 }
  settled : key ∉ rejoined.2.due.subscribe ∧ key ∉ rejoined.2.due.unsubscribe

/-- The last subscriber of a channel leaves, the unsubscribe is not written, and somebody comes
back: but for the payloads in between, that nobody was there to get, it is as if nobody had left. -/
theorem cancelled_unsubscribe_is_invisible (reachable : Reachable r) (up : r.online = true)
    {record : Record} (found : r.find? key = some record) {s : Nat}
    (alone : record.subscribers = [s])
    (live : record.state = .active ∨ record.subscribeSent = true)
    (unsent : record.unsubscribeSent = none) {between : List (Operation ν)}
    (bides : ∀ operation ∈ between, operation.bides key = true) (request : ChannelRequest) :
    Cancels key record ((r.release key ⟨record.generation, s⟩).2.events between)
      (r.run (unfed key between)).2
      (((r.release key ⟨record.generation, s⟩).2.run between).2.acquire key request) := by
  have h : r.Consistent := reachable.consistent
  have hheld : record.subscribers ≠ [] := by simp [alone]
  have hlive : record.liveOnWire = true := by simpa [Record.liveOnWire] using live
  have hstands : record.Stands record :=
    ⟨rfl, rfl, rfl, mt (h.sound key record found).idle.mp hheld, hlive, unsent⟩
  obtain ⟨⟨current, hfind, hcurrent⟩, hrun, hunheeded⟩ := run_withdraw h found hstands bides
  have hafter : (r.run (unfed key between)).2.Consistent := h.run _
  rw [release_last up found alone hlive, hrun]
  generalize (r.run (unfed key between)).2 = undisturbed at hfind hafter ⊢
  rw [acquire_withdraw hafter hfind hcurrent.unsent request]
  have hlast : (undisturbed.update key (·.handed undisturbed.inboxes.length)).find? key =
      some (current.handed undisturbed.inboxes.length) := by
    rw [find?_update _ _ _ (·.handed _) fun _ hkey => hkey, if_pos rfl, hfind, Option.map_some]
  have hdistinct : (undisturbed.update key (·.handed undisturbed.inboxes.length)).Distinct :=
    hafter.distinct.update key _ fun _ hkey => hkey
  refine ⟨hunheeded, rfl, by simp, ?_, ?_, rfl, ?_, ?_⟩
  · exact ⟨current, _, hfind, hlast, hcurrent.request, hcurrent.generation, rfl, rfl, rfl⟩
  · exact wanted_handed hafter.distinct hfind hcurrent hheld _
  · intro hdue
    obtain ⟨-, last, hsame, howes⟩ := hdistinct.mem_due_subscribe.mp hdue
    rw [hlast] at hsame
    cases hsame
    exact hcurrent.not_owesSubscribe ⟨howes.1, howes.2.1, hcurrent.subscribers ▸ hheld⟩
  · intro hdue
    obtain ⟨-, last, hsame, howes⟩ := hdistinct.mem_due_unsubscribe.mp hdue
    rw [hlast] at hsame
    cases hsame
    exact hcurrent.state howes.1

/-- A channel whose subscribe is written and not answered. -/
def asked : List (Operation Nat) :=
  [.setOnline true, .acquire trades tradesRequest, .beginSubscribe trades]

/-- The answer comes late, and so does a payload; somebody else takes another channel. -/
def meanwhile : List (Operation Nat) :=
  [.dispatch trades 7, .activate trades, .acquire ⟨"tickers:BTC"⟩ ⟨"tickers", ["BTC"]⟩,
    .beginSubscribe trades, .dispatch trades 8, .expire 9 3]

def askedRecord : Record := ⟨trades, tradesRequest, 0, .pending, [0], true, none, .pending⟩

theorem cancelled_before_answered :
    askedRecord.subscribers = [0] ∧
      Cancels trades askedRecord
        ((((empty : Registry Nat).run asked).2.release trades ⟨0, 0⟩).2.events meanwhile)
        (((empty : Registry Nat).run asked).2.run (unfed trades meanwhile)).2
        (((((empty : Registry Nat).run asked).2.release trades ⟨0, 0⟩).2.run
          meanwhile).2.acquire trades ⟨"other", []⟩) :=
  ⟨rfl, cancelled_unsubscribe_is_invisible (Reachable.empty.run asked) (by decide)
    (by decide) rfl (Or.inr rfl) rfl (by decide) _⟩

end Registry

end ChannelMux
