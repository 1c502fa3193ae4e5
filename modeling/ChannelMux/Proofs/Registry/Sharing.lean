import ChannelMux.Proofs.Registry.Sound

/-!
Many subscribers, one subscription. As long as somebody holds a channel, and it is neither refused
nor lost with the connection, it is asked for at most once, never given up, and its record stays.
-/
namespace ChannelMux

namespace Record

/-- The record still stands for the same round, is still held, and owes no subscribe that it did not
owe before. -/
structure Continues (record next : Record) : Prop where
  generation : next.generation = record.generation
  held : next.subscribers ≠ []
  owes : next.OwesSubscribe → record.OwesSubscribe

variable {record next : Record}

theorem Continues.refl (held : record.subscribers ≠ []) : record.Continues record :=
  ⟨rfl, held, id⟩

theorem Continues.trans {last : Record} (h : record.Continues next) (h' : next.Continues last) :
    record.Continues last :=
  ⟨h'.generation.trans h.generation, h'.held, h.owes ∘ h'.owes⟩

theorem continues_joined (hstate : record.state ≠ .unsubscribing) (held : record.subscribers ≠ [])
    (key : ChannelKey) (request : ChannelRequest) (generation subscriber : Nat) :
    record.Continues (joined (some record) key request generation subscriber) := by
  simp only [joined, reopened, if_neg hstate]
  refine ⟨rfl, by simp, fun howes => ⟨howes.1, howes.2.1, held⟩⟩

theorem continues_released {online : Bool} {ticket : Ticket} (held : record.subscribers ≠ [])
    (hnext : record.released online ticket = some next) (hheld : next.subscribers ≠ []) :
    record.Continues next := by
  rcases released_cases hnext with rfl | ⟨left, hleft, -, rfl⟩ | ⟨-, -, -, rfl⟩
  · exact .refl held
  · exact ⟨rfl, hleft, fun howes => ⟨howes.1, howes.2.1, held⟩⟩
  · exact absurd rfl hheld

theorem continues_confirmed (held : record.subscribers ≠ []) :
    record.Continues record.confirmed := by
  unfold confirmed
  split
  · refine ⟨rfl, held, fun howes => ?_⟩
    cases howes.1
  · rename_i hstate
    refine ⟨rfl, held, fun howes => ?_⟩
    rw [OwesSubscribe, hstate] at howes
    cases howes.1
  · rename_i hstate
    refine ⟨rfl, held, fun howes => ?_⟩
    rw [OwesSubscribe, hstate] at howes
    cases howes.1

theorem continues_unmarked (held : record.subscribers ≠ []) :
    record.Continues { record with unsubscribeSent := none } :=
  ⟨rfl, held, id⟩

theorem continues_subscribing (online : Bool) (held : record.subscribers ≠ []) :
    record.Continues (record.subscribing online) := by
  unfold subscribing
  split
  · refine ⟨rfl, held, fun howes => ?_⟩
    cases howes.2.1
  · exact .refl held

theorem continues_fed (held : record.subscribers ≠ []) : record.Continues record.fed := by
  unfold fed
  split
  · refine ⟨rfl, held, fun howes => ?_⟩
    cases howes.1
  · exact .refl held

end Record

namespace Registry

variable {ν : Type} {r : Registry ν} {key : ChannelKey}

theorem subscriberCount_pos :
    0 < r.subscriberCount key ↔
      ∃ record, r.find? key = some record ∧ record.subscribers ≠ [] := by
  unfold subscriberCount
  cases r.find? key with
  | none => simp
  | some record => simp [List.length_pos_iff]

/-- A call, with its answer, that hands out a subscribe of `key` to be written. -/
def asksFor (key : ChannelKey) : Operation ν × Answer → Bool
  | (.beginSubscribe k, .claimed (some _)) => k = key
  | _ => false

/-- A call, with its answer, that hands out an unsubscribe of `key` to be written. -/
def givesUp (key : ChannelKey) : Operation ν × Answer → Bool
  | (.beginUnsubscribe k _, .claimed (some _)) => k = key
  | _ => false

/-- The calls of a history, each with its answer. -/
def events (r : Registry ν) (operations : List (Operation ν)) : List (Operation ν × Answer) :=
  operations.zip (r.run operations).1

theorem events_cons (r : Registry ν) (operation : Operation ν) (rest : List (Operation ν)) :
    r.events (operation :: rest) =
      (operation, (r.perform operation).1) :: (r.perform operation).2.events rest := rfl

theorem asksFor_iff (operation : Operation ν) :
    asksFor key (operation, (r.perform operation).1) = true ↔
      operation = .beginSubscribe key ∧ r.online = true ∧
        ∃ record, r.find? key = some record ∧ record.OwesSubscribe := by
  rw [← beginSubscribe_isSome]
  cases operation with
  | beginSubscribe k =>
    cases h : (r.beginSubscribe k).1 with
    | none =>
      simp only [asksFor, perform, Prod.map_fst, h, Operation.beginSubscribe.injEq]
      simp only [Bool.false_eq_true, false_iff, not_and]
      rintro rfl
      simp [h]
    | some request =>
      simp only [asksFor, perform, Prod.map_fst, h, Operation.beginSubscribe.injEq]
      constructor
      · intro hk
        have hk : k = key := by simpa using hk
        subst hk
        exact ⟨rfl, by simp [h]⟩
      · rintro ⟨rfl, -⟩
        simp
  | _ => simp [asksFor]

theorem givesUp_iff (operation : Operation ν) :
    givesUp key (operation, (r.perform operation).1) = true ↔
      (∃ now, operation = .beginUnsubscribe key now) ∧ r.online = true ∧
        ∃ record, r.find? key = some record ∧ record.OwesUnsubscribe := by
  cases operation with
  | beginUnsubscribe k now =>
    rw [← beginUnsubscribe_isSome r key now]
    cases h : (r.beginUnsubscribe k now).1 with
    | none =>
      simp only [givesUp, perform, Prod.map_fst, h, Operation.beginUnsubscribe.injEq]
      simp only [Bool.false_eq_true, false_iff, not_and]
      rintro ⟨_, rfl, -⟩
      simp [h]
    | some request =>
      simp only [givesUp, perform, Prod.map_fst, h, Operation.beginUnsubscribe.injEq]
      constructor
      · intro hk
        have hk : k = key := by simpa using hk
        subst hk
        exact ⟨⟨now, rfl, rfl⟩, by simp [h]⟩
      · rintro ⟨⟨_, rfl, -⟩, -⟩
        simp
  | _ => simp [givesUp]

/-- One call keeps a held channel going, unless it refuses the channel, takes the connection down or
takes the last subscriber away. -/
theorem continues_perform (h : Reachable r) {record : Record} (hfind : r.find? key = some record)
    (held : record.subscribers ≠ []) (operation : Operation ν)
    (hup : operation ≠ .setOnline false) (hfail : ∀ error, operation ≠ .fail key error)
    (hkept : ∀ ticket, operation = .release key ticket →
      0 < (r.perform operation).2.subscriberCount key) :
    ∃ next, (r.perform operation).2.find? key = some next ∧ record.Continues next := by
  have hstate : record.state ≠ .unsubscribing := mt (h.sound hfind).idle.mp held
  have hrevision := revision h.distinct hfind operation
  simp only [subscriberCount_pos] at hkept
  generalize (r.perform operation).2.find? key = result at hrevision hkept ⊢
  cases hrevision with
  | same => exact ⟨record, rfl, .refl held⟩
  | acquire request => exact ⟨_, rfl, Record.continues_joined hstate held key request _ _⟩
  | release ticket hresult =>
    obtain ⟨next, rfl, hheld⟩ := hkept ticket rfl
    exact ⟨next, rfl, Record.continues_released held hresult hheld⟩
  | activate => exact ⟨_, rfl, Record.continues_confirmed held⟩
  | fail error => exact absurd rfl (hfail error)
  | unsubscribeAcked hresult =>
    rw [Record.unsubscribed, if_neg held] at hresult
    split at hresult
    · exact ⟨record, hresult.symm, .refl held⟩
    · exact ⟨_, hresult.symm, Record.continues_unmarked held⟩
  | forget hresult =>
    rw [Record.forgotten, if_neg held] at hresult
    exact ⟨record, hresult.symm, .refl held⟩
  | beginSubscribe => exact ⟨_, rfl, Record.continues_subscribing r.online held⟩
  | beginUnsubscribe now hresult =>
    rw [Record.unsubscribing, if_neg (fun howes => hstate howes.1)] at hresult
    exact ⟨record, hresult.symm, .refl held⟩
  | loss => exact absurd rfl hup
  | expire now timeout hresult =>
    rw [Record.swept, if_neg held] at hresult
    split at hresult
    · exact ⟨_, hresult.symm, Record.continues_unmarked held⟩
    · exact ⟨record, hresult.symm, .refl held⟩
  | dispatch payload => exact ⟨_, rfl, Record.continues_fed held⟩

/-- Handing a subscribe out settles what was owed. -/
theorem not_owes_of_asksFor {operation : Operation ν} {next : Record} (h : Reachable r)
    (hnext : (r.perform operation).2.find? key = some next)
    (hasks : asksFor key (operation, (r.perform operation).1) = true) : ¬next.OwesSubscribe := by
  obtain ⟨rfl, hup, record, hfind, howes⟩ := (asksFor_iff operation).mp hasks
  rw [find?_perform h.distinct, hfind] at hnext
  simp only [Operation.revise, if_pos, Option.map_some, Record.subscribing, hup, howes, and_self,
    Option.some.injEq] at hnext
  rw [← hnext]
  intro hagain
  cases hagain.2.1

/-- A whole run over a held channel, by induction on the calls: the record owes one subscribe at the
start, or none, and each call handed out takes from that. -/
theorem events_while_held {operations : List (Operation ν)} (h : Reachable r) {record : Record}
    (hfind : r.find? key = some record) (held : record.subscribers ≠ [])
    (hup : .setOnline false ∉ operations) (hfail : ∀ error, .fail key error ∉ operations)
    (hkept : ∀ before ticket, before ++ [.release key ticket] <+: operations →
      0 < (r.run (before ++ [.release key ticket])).2.subscriberCount key) :
    (r.events operations).countP (asksFor key) ≤ (if record.OwesSubscribe then 1 else 0) ∧
      (∀ event ∈ r.events operations, givesUp key event = false) ∧
      ∀ before, before <+: operations →
        ∃ next, (r.run before).2.find? key = some next ∧ record.Continues next := by
  induction operations generalizing r record with
  | nil =>
    refine ⟨by simp [events], by simp [events], ?_⟩
    intro before hbefore
    rw [List.prefix_nil.mp hbefore]
    exact ⟨record, hfind, .refl held⟩
  | cons operation rest ih =>
    simp only [List.mem_cons, not_or] at hup hfail
    obtain ⟨next, hnext, hcontinues⟩ := continues_perform h hfind held operation
      (Ne.symm hup.1) (fun error => Ne.symm (hfail error).1) (by
        intro ticket hop
        subst hop
        exact hkept [] ticket ⟨rest, rfl⟩)
    obtain ⟨hasks, hgives, hrest⟩ := ih (h.perform operation) hnext hcontinues.held hup.2
      (fun error => (hfail error).2) (by
        intro before ticket hbefore
        exact hkept (operation :: before) ticket (List.cons_prefix_cons.mpr ⟨rfl, hbefore⟩))
    refine ⟨?_, ?_, ?_⟩
    · rw [events_cons, List.countP_cons]
      by_cases hask : asksFor key (operation, (r.perform operation).1) = true
      · have hnot := not_owes_of_asksFor h hnext hask
        obtain ⟨-, -, old, hold, howes⟩ := (asksFor_iff operation).mp hask
        rw [hfind] at hold
        cases hold
        rw [if_neg hnot] at hasks
        rw [if_pos hask, if_pos howes]
        omega
      · rw [if_neg hask]
        by_cases howes : record.OwesSubscribe
        · rw [if_pos howes]
          split at hasks <;> omega
        · rw [if_neg (mt hcontinues.owes howes)] at hasks
          rw [if_neg howes]
          omega
    · rw [events_cons]
      intro event hevent
      rcases List.mem_cons.mp hevent with rfl | hlater
      · apply Bool.eq_false_iff.mpr
        intro hgive
        obtain ⟨-, -, old, hold, howes⟩ := (givesUp_iff operation).mp hgive
        rw [hfind] at hold
        cases hold
        exact held howes.2.2
      · exact hgives event hlater
    · intro before hbefore
      rcases List.prefix_cons_iff.mp hbefore with rfl | ⟨tail, rfl, htail⟩
      · exact ⟨record, hfind, .refl held⟩
      · obtain ⟨last, hlast, hlater⟩ := hrest tail htail
        exact ⟨last, hlast, hcontinues.trans hlater⟩

/-- However many subscribers come and go: while one is left after every release, and the channel is
neither refused nor lost with the connection, a subscribe is handed out at most once, an unsubscribe
never, and the record stands throughout, in the same round and never without a subscriber. -/
theorem one_subscription_while_held {operations : List (Operation ν)} (h : Reachable r)
    (held : 0 < r.subscriberCount key) (up : .setOnline false ∉ operations)
    (unfailed : ∀ error, .fail key error ∉ operations)
    (kept : ∀ before ticket, before ++ [.release key ticket] <+: operations →
      0 < (r.run (before ++ [.release key ticket])).2.subscriberCount key) :
    (r.events operations).countP (asksFor key) ≤ 1 ∧
      (∀ event ∈ r.events operations, givesUp key event = false) ∧
      ∀ before, before <+: operations →
        0 < (r.run before).2.subscriberCount key ∧
          ((r.run before).2.find? key).map Record.generation =
            (r.find? key).map Record.generation := by
  obtain ⟨record, hfind, hheld⟩ := subscriberCount_pos.mp held
  obtain ⟨hasks, hgives, hrest⟩ := events_while_held h hfind hheld up unfailed kept
  refine ⟨?_, hgives, ?_⟩
  · split at hasks <;> omega
  · intro before hbefore
    obtain ⟨next, hnext, hcontinues⟩ := hrest before hbefore
    refine ⟨subscriberCount_pos.mpr ⟨next, hnext, hcontinues.held⟩, ?_⟩
    rw [hnext, hfind, Option.map_some, Option.map_some, hcontinues.generation]

def trades : ChannelKey := ⟨"trades:BTC"⟩

def tradesRequest : ChannelRequest := ⟨"trades", ["BTC"]⟩

/-- A channel given up, with the unsubscribe written and not answered, and then joined again. -/
def rejoined : List (Operation Nat) :=
  [.setOnline true, .acquire trades tradesRequest, .beginSubscribe trades, .activate trades,
    .release trades ⟨0, 0⟩, .beginUnsubscribe trades 0, .acquire trades tradesRequest]

/-- A second subscriber joins, the first one leaves, and the late answer arrives in between. -/
def shared : List (Operation Nat) :=
  [.beginSubscribe trades, .acquire trades tradesRequest, .beginSubscribe trades,
    .unsubscribeAcked trades, .release trades ⟨1, 1⟩, .forget trades, .dispatch trades 7,
    .beginSubscribe trades, .beginUnsubscribe trades 5, .expire 9 3]

theorem one_subscription_after_rejoining :
    0 < ((empty : Registry Nat).run rejoined).2.subscriberCount trades ∧
      (((empty : Registry Nat).run rejoined).2.events shared).countP (asksFor trades) ≤ 1 := by
  have hkept : ∀ n ∈ List.range 11,
      0 < ((empty.run rejoined).2.run (shared.take n)).2.subscriberCount trades := by decide
  refine ⟨by decide, (one_subscription_while_held (Reachable.empty.run rejoined) (by decide)
    (by simp [shared]) (by simp [shared]) ?_).1⟩
  intro before ticket hbefore
  have hlength := hbefore.length_le
  rw [List.prefix_iff_eq_take.mp hbefore]
  exact hkept _ (List.mem_range.mpr (Nat.lt_succ_of_le hlength))

end Registry

end ChannelMux
