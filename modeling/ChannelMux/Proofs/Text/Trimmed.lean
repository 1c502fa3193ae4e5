import ChannelMux.Text.Ascii
import ChannelMux.Text.Blank
import Mathlib.Data.List.DropRight

/-!
Texts without blanks around them. Trimming makes one of any text and changes none that is one, and
capital letters are as little blank as small ones.
-/
namespace ChannelMux.Text

/-- Neither the first character nor the last is blank. -/
def Trimmed (s : List Char) : Prop :=
  (∀ c ∈ s.head?, isBlank c = false) ∧ ∀ c ∈ s.getLast?, isBlank c = false

variable {s : List Char}

theorem Trimmed.trimChars_eq (h : Trimmed s) : trimChars s = s := by
  obtain ⟨hhead, hlast⟩ := h
  have hfront : s.dropWhile isBlank = s := by
    refine List.dropWhile_eq_self_iff.mpr fun hs => ?_
    simp [hhead s[0] (by simp [List.head?_eq_getElem?])]
  have hback : s.rdropWhile isBlank = s := by
    refine List.rdropWhile_eq_self_iff.mpr fun hs => ?_
    simp [hlast (s.getLast hs) (by simp [List.getLast?_eq_some_getLast hs])]
  rw [trimChars, hfront]
  exact hback

/-- Cutting at the end does not touch the beginning, unless nothing is left. -/
theorem trimmed_trimChars (s : List Char) : Trimmed (trimChars s) := by
  constructor
  · intro c hc
    obtain ⟨rest, hrest⟩ := List.rdropWhile_prefix isBlank (s.dropWhile isBlank)
    have hfront : (s.dropWhile isBlank).head? = some c := by
      rw [← hrest, List.head?_append]
      exact congrArg (Option.or · _) hc
    have hblank := List.head?_dropWhile_not isBlank s
    rwa [hfront] at hblank
  · intro c hc
    obtain ⟨hs, rfl⟩ := List.mem_getLast?_eq_getLast hc
    exact Bool.eq_false_iff.mpr (List.rdropWhile_last_not isBlank (s.dropWhile isBlank) hs)

theorem trimmed_iff : Trimmed s ↔ trimChars s = s :=
  ⟨Trimmed.trimChars_eq, fun h => h ▸ trimmed_trimChars s⟩

theorem toNat_toUpper (c : Char) : c.toUpper.toNat =
    if 97 ≤ c.toNat ∧ c.toNat ≤ 122 then c.toNat - 32 else c.toNat := by
  unfold Char.toUpper
  split
  · rename_i hsmall
    have hdiff : ('A'.val - 'a'.val).toNat = 2 ^ 32 - 32 := rfl
    have hfirst : 97 ≤ c.val.toNat := hsmall.1
    have hlast : c.val.toNat ≤ 122 := hsmall.2
    rw [if_pos ⟨hfirst, hlast⟩, Char.toNat, Char.toNat, UInt32.toNat_add, hdiff]
    omega
  · rename_i hother
    exact (if_neg hother).symm

/-- The letters are not blank, nor is anything between them. -/
theorem isBlank_of_letter {c : Char} (hfirst : 65 ≤ c.toNat) (hlast : c.toNat ≤ 122) :
    isBlank c = false := by
  simp only [isBlank, blankCodes, List.contains_eq_mem, decide_eq_false_iff_not, List.mem_cons,
    List.not_mem_nil, or_false, not_or]
  omega

theorem isBlank_toUpper (c : Char) : isBlank c.toUpper = isBlank c := by
  have htoNat := toNat_toUpper c
  split at htoNat
  · rename_i hsmall
    rw [isBlank_of_letter (by omega) (by omega), isBlank_of_letter (by omega) (by omega)]
  · rw [isBlank, isBlank, htoNat]

theorem Trimmed.toUpper (h : Trimmed s) : Trimmed (s.map Char.toUpper) := by
  refine ⟨fun c hc => ?_, fun c hc => ?_⟩
  · rw [List.head?_map] at hc
    obtain ⟨d, hd, rfl⟩ := Option.map_eq_some_iff.mp hc
    rw [isBlank_toUpper, h.1 d hd]
  · rw [List.getLast?_map] at hc
    obtain ⟨d, hd, rfl⟩ := Option.map_eq_some_iff.mp hc
    rw [isBlank_toUpper, h.2 d hd]

/-- There is something, and no blanks around it. -/
structure Proper (s : List Char) : Prop where
  nonempty : s ≠ []
  trimmed : Trimmed s

theorem Proper.toUpper (h : Proper s) : Proper (s.map Char.toUpper) :=
  ⟨by simpa using h.nonempty, h.trimmed.toUpper⟩

end ChannelMux.Text
