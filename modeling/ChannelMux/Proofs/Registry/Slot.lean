import ChannelMux.Proofs.Registry.Lookup

/-!
One channel at a time. What an operation makes of a channel's record is decided by that record, the
state of the connection and the two counters, and by no other channel: `find?_perform` reads the
record after an operation off the record before it.
-/
namespace ChannelMux

namespace Record

/-- A subscribe may be written for this record, once the connection is up. -/
def OwesSubscribe (record : Record) : Prop :=
  record.state = .pending ∧ record.subscribeSent = false ∧ record.subscribers ≠ []

/-- An unsubscribe may be written for this record, once the connection is up. -/
def OwesUnsubscribe (record : Record) : Prop :=
  record.state = .unsubscribing ∧ record.unsubscribeSent = none ∧ record.subscribers = []

instance (record : Record) : Decidable record.OwesSubscribe := by
  unfold OwesSubscribe; infer_instance

instance (record : Record) : Decidable record.OwesUnsubscribe := by
  unfold OwesUnsubscribe; infer_instance

theorem not_owesSubscribe (record : Record) : ¬record.OwesSubscribe ↔
    record.state ≠ .pending ∨ record.subscribeSent ∨ record.subscribers = [] := by
  unfold OwesSubscribe
  cases record.subscribeSent <;> simp [Decidable.imp_iff_not_or]

theorem not_owesUnsubscribe (record : Record) : ¬record.OwesUnsubscribe ↔
    record.state ≠ .unsubscribing ∨ record.subscribers ≠ [] ∨ record.unsubscribeSent.isSome := by
  unfold OwesUnsubscribe
  cases record.unsubscribeSent <;> simp [Decidable.imp_iff_not_or]

/-- The record that an acquisition finds or makes, with its new subscriber. -/
def joined (slot : Option Record) (key : ChannelKey) (request : ChannelRequest)
    (generation subscriber : Nat) : Record :=
  let record := match slot with
    | none => opened key request generation
    | some old => old.reopened request generation
  { record with subscribers := record.subscribers ++ [subscriber] }

def released (record : Record) (online : Bool) (ticket : Ticket) : Option Record :=
  if record.generation ≠ ticket.generation ∨ ticket.subscriber ∉ record.subscribers then some record
  else if record.subscribers.filter (fun s => s ≠ ticket.subscriber) ≠ [] then
    some { record with subscribers := record.subscribers.filter (fun s => s ≠ ticket.subscriber) }
  else if online && record.liveOnWire then
    some { record with subscribers := [], resumeState := record.state, state := .unsubscribing }
  else none

def confirmed (record : Record) : Record :=
  match record.state with
  | .pending => { record with subscribeSent := false, state := .active }
  | .unsubscribing => { record with subscribeSent := false, resumeState := .active }
  | .active => { record with subscribeSent := false }

def unsubscribed (record : Record) : Option Record :=
  if record.unsubscribeSent = none then some record
  else if record.subscribers = [] then none
  else some { record with unsubscribeSent := none }

def forgotten (record : Record) : Option Record :=
  if record.subscribers = [] then none else some record

def subscribing (record : Record) (online : Bool) : Record :=
  if online = true ∧ record.OwesSubscribe then { record with subscribeSent := true } else record

def unsubscribing (record : Record) (online : Bool) (now : Nat) : Option Record :=
  if record.OwesUnsubscribe then
    if online then some { record with unsubscribeSent := some now } else none
  else some record

def swept (record : Record) (now timeout : Nat) : Option Record :=
  if Registry.isOverdue now timeout record then
    if record.subscribers = [] then none else some { record with unsubscribeSent := none }
  else some record

def fed (record : Record) : Record :=
  if record.subscribers ≠ [] ∧ record.state = .pending then
    { record with state := .active, subscribeSent := false }
  else record

theorem reopened_key (record : Record) (request : ChannelRequest) (generation : Nat) :
    (record.reopened request generation).key = record.key := by
  unfold reopened
  split
  · split <;> rfl
  · rfl

variable {record next : Record} {online : Bool}

/-- A release leaves the record alone, takes one of several places, or begins the unsubscribe. -/
theorem released_cases {ticket : Ticket} (h : record.released online ticket = some next) :
    next = record ∨
      (∃ left, left ≠ [] ∧ record.subscribers ≠ [] ∧ next = { record with subscribers := left }) ∨
      (record.subscribers ≠ [] ∧ online = true ∧ record.liveOnWire = true ∧
        next = { record with
          subscribers := [], resumeState := record.state, state := .unsubscribing }) := by
  unfold released at h
  split at h
  · cases h; exact Or.inl rfl
  · rename_i hplace
    have held : record.subscribers ≠ [] := by
      intro hnone
      exact hplace (Or.inr (by simp [hnone]))
    split at h
    · rename_i hleft
      cases h; exact Or.inr (Or.inl ⟨_, hleft, held, rfl⟩)
    · split at h
      · rename_i hlive
        obtain ⟨hup, hwire⟩ : online = true ∧ record.liveOnWire = true := by simpa using hlive
        cases h; exact Or.inr (Or.inr ⟨held, hup, hwire, rfl⟩)
      · cases h

theorem unsubscribed_cases (h : record.unsubscribed = some next) :
    next = record ∧ record.unsubscribeSent = none ∨
      record.subscribers ≠ [] ∧ next = { record with unsubscribeSent := none } := by
  unfold unsubscribed at h
  split at h
  · cases h; exact Or.inl ⟨rfl, by assumption⟩
  · split at h
    · cases h
    · cases h; exact Or.inr ⟨by assumption, rfl⟩

theorem forgotten_cases (h : record.forgotten = some next) : next = record := by
  unfold forgotten at h
  split at h
  · cases h
  · cases h; rfl

theorem unsubscribing_cases {now : Nat} (h : record.unsubscribing online now = some next) :
    next = record ∧ ¬record.OwesUnsubscribe ∨
      record.OwesUnsubscribe ∧ online = true ∧
        next = { record with unsubscribeSent := some now } := by
  unfold unsubscribing at h
  split at h
  · split at h
    · cases h; exact Or.inr ⟨by assumption, by assumption, rfl⟩
    · cases h
  · cases h; exact Or.inl ⟨rfl, by assumption⟩

theorem swept_cases {now timeout : Nat} (h : record.swept now timeout = some next) :
    next = record ∨ record.subscribers ≠ [] ∧ next = { record with unsubscribeSent := none } := by
  unfold swept at h
  split at h
  · split at h
    · cases h
    · cases h; exact Or.inr ⟨by assumption, rfl⟩
  · cases h; exact Or.inl rfl

/-- What a lost connection leaves has to be asked for again. -/
theorem afterLoss_cases (h : Registry.afterLoss record = some next) :
    record.state ≠ .unsubscribing ∧ next = { record with
      state := .pending, subscribeSent := false, unsubscribeSent := none } := by
  unfold Registry.afterLoss at h
  split at h
  · cases h
  · rename_i hstate
    cases h; exact ⟨by simp [hstate], rfl⟩
  · rename_i hstate
    cases h; exact ⟨by simp [hstate], by rw [hstate]⟩

end Record

namespace Registry

variable {ν : Type}

/-- What an operation makes of the record of `key`. -/
def Operation.revise (online : Bool) (generation subscriber : Nat) (key : ChannelKey)
    (slot : Option Record) : Operation ν → Option Record
  | .acquire k request =>
    if k = key then some (Record.joined slot k request generation subscriber) else slot
  | .release k ticket => if k = key then slot.bind (·.released online ticket) else slot
  | .activate k => if k = key then slot.map Record.confirmed else slot
  | .fail k _ => if k = key then none else slot
  | .unsubscribeAcked k => if k = key then slot.bind Record.unsubscribed else slot
  | .forget k => if k = key then slot.bind Record.forgotten else slot
  | .beginSubscribe k => if k = key then slot.map (·.subscribing online) else slot
  | .beginUnsubscribe k now => if k = key then slot.bind (·.unsubscribing online now) else slot
  | .setOnline up => if up then slot else slot.bind afterLoss
  | .expire now timeout => slot.bind (·.swept now timeout)
  | .dispatch k _ => if k = key then slot.map Record.fed else slot

theorem find?_acquire (r : Registry ν) (k key : ChannelKey) (request : ChannelRequest) :
    (r.acquire k request).2.find? key =
      if k = key then
        some (Record.joined (r.find? key) k request r.nextGeneration r.inboxes.length)
      else r.find? key := by
  let joined := Record.joined (r.find? k) k request r.nextGeneration r.inboxes.length
  have hkey : joined.key = k := by
    cases h : r.find? k with
    | none => simp [joined, h, Record.joined, Record.opened]
    | some old => simp [joined, h, Record.joined, Record.reopened_key, key_of_find? h]
  have hplace : joined.generation = r.nextGeneration ∨ (r.find? joined.key).isSome := by
    rw [hkey]
    cases h : r.find? k with
    | none => simp [joined, h, Record.joined, Record.opened]
    | some old => simp
  change (r.place joined).find? key = _
  rw [find?_place r joined key hplace, hkey]
  by_cases hk : k = key
  · subst hk; rfl
  · simp [hk]

theorem find?_release (r : Registry ν) (k key : ChannelKey) (ticket : Ticket) :
    (r.release k ticket).2.find? key =
      if k = key then (r.find? key).bind (·.released r.online ticket) else r.find? key := by
  unfold release
  by_cases hk : k = key
  · subst hk
    rw [if_pos rfl]
    cases h : r.find? k with
    | none => simpa using h
    | some record =>
      simp only [Option.bind_some, Record.released]
      split
      · exact h
      · split
        · simp [find?_update, h]
        · split <;> simp [find?_update, find?_remove, h]
  · rw [if_neg hk]
    split
    · rfl
    · split
      · rfl
      · simp only
        split
        · simp [find?_update, hk]
        · split <;> simp [find?_update, find?_remove, hk]

theorem find?_activate (r : Registry ν) (k key : ChannelKey) :
    (r.activate k).2.find? key =
      if k = key then (r.find? key).map Record.confirmed else r.find? key := by
  unfold activate
  by_cases hk : k = key
  · subst hk
    rw [if_pos rfl]
    cases h : r.find? k with
    | none => simpa using h
    | some record =>
      simp only [Option.map_some, Record.confirmed]
      split <;> simp [find?_update, *]
  · rw [if_neg hk]
    repeat' split
    all_goals simp [find?_update, hk]

theorem find?_fail (r : Registry ν) (k key : ChannelKey) (error : Error) :
    (r.fail k error).2.find? key =
      if k = key then none else r.find? key := by
  unfold fail
  by_cases hk : k = key
  · subst hk
    rw [if_pos rfl]
    cases h : r.find? k with
    | none => simpa using h
    | some record =>
      simp [find?_remove]
  · rw [if_neg hk]
    repeat' split
    all_goals simp [find?_remove, hk]

theorem find?_unsubscribeAcked (r : Registry ν) (k key : ChannelKey) :
    (r.unsubscribeAcked k).2.find? key =
      if k = key then (r.find? key).bind Record.unsubscribed else r.find? key := by
  unfold unsubscribeAcked
  by_cases hk : k = key
  · subst hk
    rw [if_pos rfl]
    cases h : r.find? k with
    | none => simpa using h
    | some record =>
      simp only [Option.bind_some, Record.unsubscribed]
      split
      · simp_all
      · split <;> simp_all [find?_update, find?_remove]
  · rw [if_neg hk]
    repeat' split
    all_goals simp [find?_update, find?_remove, hk]

theorem find?_forget (r : Registry ν) (k key : ChannelKey) :
    (r.forget k).2.find? key =
      if k = key then (r.find? key).bind Record.forgotten else r.find? key := by
  unfold forget
  by_cases hk : k = key
  · subst hk
    rw [if_pos rfl]
    cases h : r.find? k with
    | none => simpa using h
    | some record =>
      simp only [Option.bind_some, Record.forgotten]
      split <;> simp_all [find?_remove]
  · rw [if_neg hk]
    repeat' split
    all_goals simp [find?_remove, hk]

theorem find?_beginSubscribe (r : Registry ν) (k key : ChannelKey) :
    (r.beginSubscribe k).2.find? key =
      if k = key then (r.find? key).map (·.subscribing r.online) else r.find? key := by
  unfold beginSubscribe
  by_cases hk : k = key
  · subst hk
    rw [if_pos rfl]
    cases h : r.find? k with
    | none => simpa using h
    | some record =>
      by_cases hup : r.online = true
      · by_cases howes : record.OwesSubscribe
        · obtain ⟨hstate, hsent, hheld⟩ := id howes
          simp [Record.subscribing, find?_update, *]
        · simp only [hup, Bool.not_true, Bool.false_eq_true, if_false,
            if_pos (record.not_owesSubscribe.mp howes)]
          simp [Record.subscribing, howes, h]
      · simp [Record.subscribing, hup, h]
  · rw [if_neg hk]
    repeat' split
    all_goals simp [find?_update, hk]

theorem find?_beginUnsubscribe (r : Registry ν) (k key : ChannelKey) (now : Nat) :
    (r.beginUnsubscribe k now).2.find? key =
      if k = key then (r.find? key).bind (·.unsubscribing r.online now) else r.find? key := by
  unfold beginUnsubscribe
  by_cases hk : k = key
  · subst hk
    rw [if_pos rfl]
    cases h : r.find? k with
    | none => simpa using h
    | some record =>
      by_cases howes : record.OwesUnsubscribe
      · obtain ⟨hstate, hsent, hidle⟩ := id howes
        by_cases hup : r.online = true
        · simp [Record.unsubscribing, find?_update, *]
        · simp [Record.unsubscribing, find?_remove, *]
      · simp only [if_pos (record.not_owesUnsubscribe.mp howes)]
        simp [Record.unsubscribing, howes, h]
  · rw [if_neg hk]
    repeat' split
    all_goals simp [find?_update, find?_remove, hk]

theorem find?_dispatch (r : Registry ν) (k key : ChannelKey) (payload : ν) :
    (r.dispatch k payload).2.find? key =
      if k = key then (r.find? key).map Record.fed else r.find? key := by
  unfold dispatch
  by_cases hk : k = key
  · subst hk
    rw [if_pos rfl]
    cases h : r.find? k with
    | none => simpa using h
    | some record =>
      simp only [Option.map_some, Record.fed]
      split
      · have hnot : ¬(record.subscribers ≠ [] ∧ record.state = .pending) := by grind
        rw [if_neg hnot, h]
      · split <;> simp_all [find?_update]
  · rw [if_neg hk]
    repeat' split
    all_goals simp [find?_update, hk]

/-- Going down revises every record by itself. -/
theorem find?_setOnline {r : Registry ν} (distinct : r.Distinct) (up : Bool) (key : ChannelKey) :
    (r.setOnline up).find? key = if up then r.find? key else (r.find? key).bind afterLoss := by
  unfold setOnline
  cases up with
  | true => rfl
  | false =>
    apply find?_filterMap distinct
    intro record kept h
    unfold afterLoss at h
    split at h <;> cases h <;> rfl

theorem find?_expire {r : Registry ν} (distinct : r.Distinct) (now timeout : Nat)
    (key : ChannelKey) :
    (r.expire now timeout).2.find? key = (r.find? key).bind (·.swept now timeout) := by
  have hswept : (fun record : Record => record.swept now timeout) = fun record =>
      if isOverdue now timeout record then
        if record.subscribers.isEmpty then none else some { record with unsubscribeSent := none }
      else some record := by
    funext record
    simp [Record.swept]
  rw [hswept]
  apply find?_filterMap distinct
  intro record kept h
  split at h
  · split at h <;> cases h
    rfl
  · cases h; rfl

/-- The record of a channel after an operation, read off the record before it. -/
theorem find?_perform {r : Registry ν} (distinct : r.Distinct) (operation : Operation ν)
    (key : ChannelKey) :
    (r.perform operation).2.find? key =
      operation.revise r.online r.nextGeneration r.inboxes.length key (r.find? key) := by
  cases operation with
  | acquire k request => exact find?_acquire r k key request
  | release k ticket => exact find?_release r k key ticket
  | activate k => exact find?_activate r k key
  | fail k error => exact find?_fail r k key error
  | unsubscribeAcked k => exact find?_unsubscribeAcked r k key
  | forget k => exact find?_forget r k key
  | beginSubscribe k => exact find?_beginSubscribe r k key
  | beginUnsubscribe k now => exact find?_beginUnsubscribe r k key now
  | setOnline up => exact find?_setOnline distinct up key
  | expire now timeout => exact find?_expire distinct now timeout key
  | dispatch k payload => exact find?_dispatch r k key payload

/-- The calls that may do something to the record of `key`. -/
def Operation.Concerns (key : ChannelKey) : Operation ν → Prop
  | .acquire k _ | .release k _ | .activate k | .fail k _ | .unsubscribeAcked k | .forget k
  | .beginSubscribe k | .beginUnsubscribe k _ | .dispatch k _ => k = key
  | .setOnline up => up = false
  | .expire _ _ => True

/-- What a call makes of the record of `key` that it finds, one case for each call that concerns
it. -/
inductive Revision (r : Registry ν) (key : ChannelKey) (record : Record) :
    Operation ν → Option Record → Prop where
  | same {operation : Operation ν} : ¬operation.Concerns key →
      Revision r key record operation (some record)
  | acquire (request : ChannelRequest) : Revision r key record (.acquire key request)
      (some (Record.joined (some record) key request r.nextGeneration r.inboxes.length))
  | release {result : Option Record} (ticket : Ticket) :
      record.released r.online ticket = result →
      Revision r key record (.release key ticket) result
  | activate : Revision r key record (.activate key) (some record.confirmed)
  | fail (error : Error) : Revision r key record (.fail key error) none
  | unsubscribeAcked {result : Option Record} : record.unsubscribed = result →
      Revision r key record (.unsubscribeAcked key) result
  | forget {result : Option Record} : record.forgotten = result →
      Revision r key record (.forget key) result
  | beginSubscribe : Revision r key record (.beginSubscribe key)
      (some (record.subscribing r.online))
  | beginUnsubscribe {result : Option Record} (now : Nat) :
      record.unsubscribing r.online now = result →
      Revision r key record (.beginUnsubscribe key now) result
  | loss {result : Option Record} : afterLoss record = result →
      Revision r key record (.setOnline false) result
  | expire {result : Option Record} (now timeout : Nat) : record.swept now timeout = result →
      Revision r key record (.expire now timeout) result
  | dispatch (payload : ν) : Revision r key record (.dispatch key payload) (some record.fed)

theorem Revision.of_key {r : Registry ν} {key k : ChannelKey} {record : Record}
    {operation : Operation ν} {result : Option Record}
    (hother : k ≠ key → ¬operation.Concerns key) (h : r.Revision k record operation result) :
    r.Revision key record operation (if k = key then result else some record) := by
  split
  · rename_i hk
    subst hk
    exact h
  · rename_i hk
    exact .same (hother hk)

/-- Every call revises the record that it finds in one of these ways. -/
theorem revision {r : Registry ν} (distinct : r.Distinct) {key : ChannelKey} {record : Record}
    (hfind : r.find? key = some record) (operation : Operation ν) :
    r.Revision key record operation ((r.perform operation).2.find? key) := by
  rw [find?_perform distinct, hfind]
  cases operation with
  | acquire k request => exact .of_key id (.acquire request)
  | release k ticket => exact .of_key id (.release ticket rfl)
  | activate k => exact .of_key id .activate
  | fail k error => exact .of_key id (.fail error)
  | unsubscribeAcked k => exact .of_key id (.unsubscribeAcked rfl)
  | forget k => exact .of_key id (.forget rfl)
  | beginSubscribe k => exact .of_key id .beginSubscribe
  | beginUnsubscribe k now => exact .of_key id (.beginUnsubscribe now rfl)
  | dispatch k payload => exact .of_key id (.dispatch payload)
  | expire now timeout => exact .expire now timeout rfl
  | setOnline up =>
    cases up with
    | true => exact .same (by simp [Operation.Concerns])
    | false => exact .loss rfl

/-- Only an acquisition makes a record where there was none. -/
theorem joined_of_find?_none {r : Registry ν} (distinct : r.Distinct) {operation : Operation ν}
    {key : ChannelKey} (hfind : r.find? key = none) {next : Record}
    (hnext : (r.perform operation).2.find? key = some next) :
    ∃ request, operation = .acquire key request ∧
      next = Record.joined none key request r.nextGeneration r.inboxes.length := by
  rw [find?_perform distinct, hfind] at hnext
  cases operation with
  | acquire k request =>
    simp only [Operation.revise] at hnext
    split at hnext
    · rename_i hk
      subst hk
      cases hnext
      exact ⟨request, rfl, rfl⟩
    · cases hnext
  | _ => simp [Operation.revise] at hnext

theorem online_place (r : Registry ν) (record : Record) :
    (r.place record).online = r.online := by
  unfold place
  split <;> rfl

/-- Only going up or down changes whether the connection is up. -/
theorem online_perform (r : Registry ν) (operation : Operation ν) :
    (r.perform operation).2.online =
      match operation with
      | .setOnline up => up
      | _ => r.online := by
  cases operation with
  | setOnline up => cases up <;> rfl
  | acquire k request => exact online_place r _
  | expire now timeout => rfl
  | _ =>
    simp only [perform, release, activate, fail, unsubscribeAcked, forget, beginSubscribe,
      beginUnsubscribe, dispatch, Prod.map_snd, id]
    repeat' split
    all_goals rfl

theorem Distinct.perform {r : Registry ν} (h : r.Distinct) (operation : Operation ν) :
    (r.perform operation).2.Distinct := by
  cases operation with
  | acquire k request => exact h.place _
  | setOnline up =>
    cases up with
    | true => exact h
    | false =>
      refine List.Nodup.sublist (sublist_map_filterMap Record.key ?_) h
      intro record _ kept hkept
      unfold afterLoss at hkept
      split at hkept <;> cases hkept <;> rfl
  | expire now timeout =>
    refine List.Nodup.sublist (sublist_map_filterMap Record.key ?_) h
    intro record _ kept hkept
    split at hkept
    · split at hkept <;> cases hkept
      rfl
    · cases hkept; rfl
  | _ =>
    simp only [Registry.perform, release, activate, fail, unsubscribeAcked, forget, beginSubscribe,
      beginUnsubscribe, dispatch, Prod.map_snd, id]
    repeat' split
    all_goals first
      | exact h
      | exact h.remove _
      | exact h.update _ _ (fun _ hkey => hkey)

theorem Reachable.distinct {r : Registry ν} (h : Reachable r) : r.Distinct := by
  induction h with
  | empty => exact List.nodup_nil
  | perform operation _ ih => exact ih.perform operation

/-- A subscribe is handed out exactly when the connection is up and the record owes one. -/
theorem beginSubscribe_isSome (r : Registry ν) (key : ChannelKey) :
    (r.beginSubscribe key).1.isSome ↔
      r.online = true ∧ ∃ record, r.find? key = some record ∧ record.OwesSubscribe := by
  unfold beginSubscribe
  by_cases hup : r.online = true
  · cases h : r.find? key with
    | none => simp [hup]
    | some record =>
      by_cases howes : record.OwesSubscribe
      · have hnot := mt record.not_owesSubscribe.mpr (not_not_intro howes)
        simp [hup, hnot, howes]
      · simp [hup, record.not_owesSubscribe.mp howes, howes]
  · simp [hup]

/-- An unsubscribe is handed out exactly when the connection is up and the record owes one. -/
theorem beginUnsubscribe_isSome (r : Registry ν) (key : ChannelKey) (now : Nat) :
    (r.beginUnsubscribe key now).1.isSome ↔
      r.online = true ∧ ∃ record, r.find? key = some record ∧ record.OwesUnsubscribe := by
  unfold beginUnsubscribe
  cases h : r.find? key with
  | none => simp
  | some record =>
    by_cases howes : record.OwesUnsubscribe
    · have hnot := mt record.not_owesUnsubscribe.mpr (not_not_intro howes)
      cases hup : r.online <;> simp [hnot, howes]
    · simp [record.not_owesUnsubscribe.mp howes, howes]

end Registry

end ChannelMux
