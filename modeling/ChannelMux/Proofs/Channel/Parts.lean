import ChannelMux.Channel.Key
import Mathlib.Data.List.DropRight

/-!
A key can be read back: its text gives the name and the canonical arguments it was written from, so
two keys are the same only if these are.
-/
namespace ChannelMux

namespace Text

theorem trim_eq_iff {s t : String} :
    trim s = trim t ↔ trimChars s.toList = trimChars t.toList := by
  rw [trim, trim, String.ofList_inj]

end Text

namespace ChannelKey

/-- The parts of an escaped text. A `:` without a `\` before it ends a part. -/
def readParts : List Char → List Char × List (List Char)
  | [] => ([], [])
  | '\\' :: c :: rest => (c :: (readParts rest).1, (readParts rest).2)
  | ':' :: rest => ([], (readParts rest).1 :: (readParts rest).2)
  | c :: rest => (c :: (readParts rest).1, (readParts rest).2)

theorem readParts_cons {c : Char} (hcolon : c ≠ ':') (hslash : c ≠ '\\') (rest : List Char) :
    readParts (c :: rest) = (c :: (readParts rest).1, (readParts rest).2) := by
  conv_lhs => unfold readParts
  split <;> simp_all

theorem readParts_escape_append (part rest : List Char) :
    readParts (escape part ++ rest) = (part ++ (readParts rest).1, (readParts rest).2) := by
  induction part with
  | nil => rfl
  | cons c tail ih =>
    by_cases hc : c = ':' ∨ c = '\\'
    · simp [escape, hc, readParts, ih]
    · obtain ⟨hcolon, hslash⟩ := not_or.mp hc
      simp [escape, hcolon, hslash, readParts_cons, ih]

/-- Nothing of what a key is written from is lost. By induction on the arguments. -/
theorem readParts_join (name : List Char) (args : List (List Char)) :
    readParts (join name args) = (name, args) := by
  have hargs : readParts (args.flatMap (fun a => ':' :: escape a)) = ([], args) := by
    induction args with
    | nil => rfl
    | cons arg rest ih =>
      rw [List.flatMap_cons, List.cons_append, readParts, readParts_escape_append, ih]
      simp
  rw [join, readParts_escape_append, hargs]
  simp

theorem ofParts_eq_iff {n₁ n₂ : String} {a₁ a₂ : List String} :
    ofParts n₁ a₁ = ofParts n₂ a₂ ↔
      Text.trim n₁ = Text.trim n₂ ∧ canonicalArgs a₁ = canonicalArgs a₂ := by
  rw [Text.trim_eq_iff]
  refine ⟨fun h => ?_, fun ⟨hname, hargs⟩ => by rw [ofParts, ofParts, hname, hargs]⟩
  rw [ofParts, ofParts, ChannelKey.mk.injEq, String.ofList_inj] at h
  have hparts := congrArg readParts h
  rw [readParts_join, readParts_join] at hparts
  exact Prod.mk.inj hparts

theorem channel_ofParts (name : String) (args : List String) :
    (ofParts name args).channel = String.ofList (escape (Text.trimChars name.toList)) := by
  rw [channel, ofParts, String.toList_ofList, join, firstPart_escape_append]
  cases canonicalArgs args with
  | nil => exact Or.inl rfl
  | cons arg rest => exact Or.inr ⟨_, rfl⟩

/-- The arguments that count, as texts. -/
theorem canonicalArgs_eq (args : List String) :
    canonicalArgs args = ((args.map Text.trim).rdropWhile (· = "")).map String.toList := by
  have htrimmed : args.map (fun a => Text.trimChars a.toList) =
      (args.map Text.trim).map String.toList := by simp
  have hempty : List.isEmpty ∘ String.toList = fun s : String => decide (s = "") := by
    funext s
    rw [Bool.eq_iff_iff, decide_eq_true_iff, ← String.toList_eq_nil_iff]
    exact List.isEmpty_iff
  rw [canonicalArgs, htrimmed, Text.dropEndWhile, ← List.map_reverse, List.dropWhile_map, hempty,
    ← List.map_reverse]
  rfl

/-- A key is faithful: it is the same exactly for the same trimmed name and the same trimmed
arguments up to trailing empty ones, and its channel is the escaped name, whole and alone. -/
theorem ofParts_faithful (n₁ n₂ : String) (a₁ a₂ : List String) :
    (ofParts n₁ a₁ = ofParts n₂ a₂ ↔ Text.trim n₁ = Text.trim n₂ ∧
      (a₁.map Text.trim).rdropWhile (· = "") = (a₂.map Text.trim).rdropWhile (· = "")) ∧
    (ofParts n₁ a₁).channel = String.ofList (escape (Text.trim n₁).toList) := by
  have hargs : canonicalArgs a₁ = canonicalArgs a₂ ↔
      (a₁.map Text.trim).rdropWhile (· = "") = (a₂.map Text.trim).rdropWhile (· = "") := by
    rw [canonicalArgs_eq, canonicalArgs_eq]
    exact (List.map_injective_iff.mpr fun _ _ => String.toList_inj.mp).eq_iff
  rw [ofParts_eq_iff, hargs, channel_ofParts, Text.toList_trim]
  exact ⟨Iff.rfl, rfl⟩

example : (ofParts "a:b" ["", "x\\", " "]).text = "a\\:b::x\\\\" := by decide

end ChannelKey

end ChannelMux
