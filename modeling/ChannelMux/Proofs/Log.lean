import Mathlib.Data.List.Basic

/-!
Logs, which grow at the end. What holds of every entry when it is made, in view of those before it,
holds throughout.
-/
namespace ChannelMux

variable {α : Type} {log before after : List α} {entry last : α}

/-- An entry of a longer log is the new one or one of the old. -/
theorem concat_eq_append_cons_iff : log ++ [last] = before ++ entry :: after ↔
    log = before ∧ last = entry ∧ after = [] ∨
      ∃ rest, log = before ++ entry :: rest ∧ after = rest ++ [last] := by
  constructor
  · intro h
    rcases List.eq_nil_or_concat after with rfl | ⟨rest, final, rfl⟩
    · obtain ⟨hlog, hlast⟩ := List.append_inj' h rfl
      exact Or.inl ⟨hlog, List.singleton_inj.mp hlast, rfl⟩
    · rw [List.concat_eq_append, ← List.cons_append, ← List.append_assoc] at h
      obtain ⟨hlog, hlast⟩ := List.append_inj' h rfl
      rw [List.singleton_inj.mp hlast]
      exact Or.inr ⟨rest, hlog, List.concat_eq_append⟩
  · rintro (⟨rfl, rfl, rfl⟩ | ⟨rest, rfl, rfl⟩)
    · rfl
    · simp

/-- Every entry is as it should be after those before it. -/
def Throughout (p : List α → α → Prop) (log : List α) : Prop :=
  ∀ before entry after, log = before ++ entry :: after → p before entry

namespace Throughout

variable {p : List α → α → Prop}

theorem nil : Throughout p [] := by
  intro before entry after hsplit
  simp at hsplit

theorem concat (h : Throughout p log) (hlast : p log last) : Throughout p (log ++ [last]) := by
  intro before entry after hsplit
  rcases concat_eq_append_cons_iff.mp hsplit with ⟨rfl, rfl, -⟩ | ⟨rest, hlog, -⟩
  · exact hlast
  · exact h before entry rest hlog

end Throughout

end ChannelMux
