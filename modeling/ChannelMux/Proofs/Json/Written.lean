import ChannelMux.Json.Value
import Mathlib.Data.List.Basic

/-!
What is written can be told from the text. A string ends where it is written to end, whatever comes
after it, so an object of texts is known from its text as well.
-/
namespace ChannelMux.Json

open Source

namespace Source

variable {c e : Char} {code : Nat}

theorem scanCodes_plain (hquote : c ≠ '"') (hslash : c ≠ '\\') (hprints : ¬c.toNat < 0x20)
    (rest : List Char) :
    scanCodes (c :: rest) =
      (scanCodes rest).map (fun (codes, left) => (c.toNat :: codes, left)) := by
  rw [scanCodes]
  · rw [if_neg (not_or.mpr ⟨hprints, hslash⟩)]
    cases scanCodes rest <;> rfl
  · exact hquote
  · exact fun _ _ _ _ _ hc => absurd hc hslash
  · exact fun _ _ hc => absurd hc hslash

theorem scanCodes_escape (hcode : simpleEscape? e = some code) (rest : List Char) :
    scanCodes ('\\' :: e :: rest) =
      (scanCodes rest).map (fun (codes, left) => (code :: codes, left)) := by
  have hletter : e ≠ 'u' := by
    rintro rfl
    cases hcode
  rw [scanCodes]
  · rw [hcode]
    cases scanCodes rest <;> rfl
  · rintro a b c d rest he
    exact absurd he hletter

theorem hexNumber?_hexDigits : ∀ n < 0x20, Text.hexNumber? (Text.hexDigits 4 n) = some n := by
  decide

theorem scanCodes_control (hcontrol : code < 0x20) (rest : List Char) :
    scanCodes ('\\' :: 'u' :: (Text.hexDigits 4 code ++ rest)) =
      (scanCodes rest).map (fun (codes, left) => (code :: codes, left)) := by
  have hcode := hexNumber?_hexDigits code hcontrol
  simp only [Text.hexDigits, List.nil_append, List.cons_append] at hcode ⊢
  rw [scanCodes, hcode]
  cases scanCodes rest <;> rfl

end Source

namespace Value

/-- A character is read back as its code, however it is written. -/
theorem scanCodes_writeChar (c : Char) (rest : List Char) :
    scanCodes (writeChar c ++ rest) =
      (scanCodes rest).map (fun (codes, left) => (c.toNat :: codes, left)) := by
  unfold writeChar
  split
  case h_8 hquote hslash _ _ _ _ _ =>
    split
    · rename_i hcontrol
      exact scanCodes_control hcontrol rest
    · rename_i hprints
      exact scanCodes_plain hquote hslash hprints rest
  all_goals exact scanCodes_escape rfl rest

/-- A string is read up to where it ends. -/
theorem scanCodes_writeString (s rest : List Char) :
    scanCodes (s.flatMap writeChar ++ '"' :: rest) = some (s.map Char.toNat, rest) := by
  induction s with
  | nil => rfl
  | cons c tail ih =>
    rw [List.flatMap_cons, List.append_assoc, scanCodes_writeChar, ih]
    rfl

theorem writeString_append_inj {s t : String} {rest rest' : List Char}
    (h : writeString s ++ rest = writeString t ++ rest') : s = t ∧ rest = rest' := by
  have htail : s.toList.flatMap writeChar ++ '"' :: rest =
      t.toList.flatMap writeChar ++ '"' :: rest' := by
    simpa [writeString] using h
  have hscan := congrArg scanCodes htail
  rw [scanCodes_writeString, scanCodes_writeString, Option.some.injEq, Prod.mk.injEq] at hscan
  have hcodes : Function.Injective Char.toNat := fun _ _ => Char.toNat_inj.mp
  exact ⟨String.toList_inj.mp (List.map_injective_iff.mpr hcodes hscan.1), hscan.2⟩

/-- Members whose values are texts. -/
def texts (members : List (String × String)) : List (String × Value) :=
  members.map (fun (name, text) => (name, .string text))

/-- A member and what comes after it. -/
theorem writeMembers_texts_cons (name text : String) (rest : List (String × String)) :
    writeMembers (texts ((name, text) :: rest)) = writeString name ++ ':' :: (writeString text ++
      if rest = [] then [] else ',' :: writeMembers (texts rest)) := by
  cases rest with
  | nil => simp [texts, writeMembers, writeChars]
  | cons member rest => simp [texts, writeMembers, writeChars]

/-- Texts under names are told from how they are written. By induction on the members. -/
theorem writeMembers_texts_inj {members others : List (String × String)}
    (h : writeMembers (texts members) = writeMembers (texts others)) : members = others := by
  induction members generalizing others with
  | nil =>
    cases others with
    | nil => rfl
    | cons other rest =>
      rw [writeMembers_texts_cons] at h
      cases h
  | cons member rest ih =>
    cases others with
    | nil =>
      rw [writeMembers_texts_cons] at h
      cases h
    | cons other rest' =>
      obtain ⟨name, text⟩ := member
      obtain ⟨name', text'⟩ := other
      rw [writeMembers_texts_cons, writeMembers_texts_cons] at h
      obtain ⟨rfl, hvalue⟩ := writeString_append_inj h
      obtain ⟨rfl, hrest⟩ := writeString_append_inj (List.cons.inj hvalue).2
      by_cases hlast : rest = []
      · by_cases hlast' : rest' = []
        · rw [hlast, hlast']
        · rw [if_pos hlast, if_neg hlast'] at hrest
          cases hrest
      · by_cases hlast' : rest' = []
        · rw [if_neg hlast, if_pos hlast'] at hrest
          cases hrest
        · rw [if_neg hlast, if_neg hlast'] at hrest
          rw [ih (List.cons.inj hrest).2]

end Value

end ChannelMux.Json
