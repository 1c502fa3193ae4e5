import ChannelMux.Proofs.Registry.Driven
import ChannelMux.Proofs.Registry.Inboxes

/-!
Registries in which every channel is yet to be asked for. A loss of the connection leaves one, and
takes nothing with it if there is one already.
-/
namespace ChannelMux.Registry

variable {ν : Type} {r : Registry ν}

def Untried (r : Registry ν) : Prop :=
  ∀ key record, r.find? key = some record → record.state = .pending

theorem untried_empty : (empty : Registry ν).Untried := by
  rintro key record ⟨⟩

/-- While the connection is down, only a confirmation could change that. -/
theorem Untried.perform (h : r.Untried) (distinct : r.Distinct) (hdown : r.online = false)
    {operation : Operation ν} (hquiet : operation.confirmed? = none) :
    (r.perform operation).2.Untried :=
  fun key _ hnext => pending_perform distinct hdown (h key) hquiet hnext

theorem pending_of_setOnline : ∀ record ∈ (r.setOnline false).records, record.state = .pending := by
  intro record hmem
  obtain ⟨old, -, hkept⟩ := List.mem_filterMap.mp hmem
  obtain ⟨-, rfl⟩ := Record.afterLoss_cases hkept
  rfl

theorem untried_loss (r : Registry ν) : (r.setOnline false).Untried :=
  fun _ record hfind => pending_of_setOnline record (List.mem_of_find?_eq_some hfind)

/-- A connection that is down takes nothing with it by going down. -/
theorem Untried.setOnline_of_offline (h : r.Untried) (consistent : r.Consistent)
    (hdown : r.online = false) : r.setOnline false = r := by
  have hkept : ∀ record ∈ r.records, afterLoss record = some record := by
    intro record hmem
    have hfind := consistent.distinct.find?_of_mem hmem
    have hstate := h _ _ hfind
    obtain ⟨-, hsent, hmark⟩ := (consistent.sound _ _ hfind).offline hdown
    obtain ⟨key, request, generation, state, subscribers, sent, mark, resume⟩ := record
    simp only at hstate hsent hmark
    subst hstate hsent hmark
    rfl
  have hrecords : r.records.filterMap afterLoss = r.records := by
    rw [List.filterMap_congr hkept, List.filterMap_some]
  rw [setOnline, if_neg Bool.false_ne_true, hrecords, ← hdown]

end ChannelMux.Registry
