import ChannelMux.Json.Value

/-!
Reading records with known fields from JSON text. A record is an object, in which unknown members
are passed over and a known one may stand only once, or an array of its fields in order. What is
passed over only has to be well formed, however deep or large it is.
-/
namespace ChannelMux.Json

/-- What a record's text holds for one of its fields. -/
inductive Field where
  | given (source : Source)
  /-- The object has no such member. -/
  | omitted
  /-- The array ended before it. -/
  | cut
deriving Repr

namespace Source

/-- The fields of a record, in the order of `names`. -/
def fields? (names : List String) : Source → Option (List Field)
  | object members =>
    if members.any (fun (key, _) => key.isNone) then none
    else if names.any (fun name =>
        1 < (members.filter (fun (key, _) => key = some name)).length) then
      none
    else
      some (names.map (fun name =>
        match members.find? (fun (key, _) => key = some name) with
        | some (_, source) => .given source
        | none => .omitted))
  | array items =>
    if names.length < items.length then none
    else some (items.map Field.given ++ List.replicate (names.length - items.length) .cut)
  | _ => none

def text? : Source → Option String
  | string content => content
  | _ => none

def flag? : Source → Option Bool
  | bool b => some b
  | _ => none

/-- A whole number from zero to `limit`, written without sign, fraction and exponent. -/
def natUpTo? (limit : Nat) : Source → Option Nat
  | number literal =>
    match literal.number? with
    | some (.int i) => if 0 ≤ i ∧ i ≤ limit then some i.toNat else none
    | _ => none
  | _ => none

def int64? : Source → Option Int
  | number literal =>
    match literal.number? with
    | some (.int i) => if i < twoTo 63 then some i else none
    | _ => none
  | _ => none

def double? : Source → Option Binary64
  | number literal => literal.number?.map Number.toBinary64
  | _ => none

def listOf? {α : Type} (read : Source → Option α) : Source → Option (List α)
  | array items => items.mapM read
  | _ => none

/-- Texts under names; of a repeated name the last counts. -/
def textMap? : Source → Option (List (String × String))
  | object members =>
    members.foldlM (fun acc (key, source) => do
      let key ← key
      let value ← source.text?
      some (acc.filter (fun (k, _) => k ≠ key) ++ [(key, value)])) []
  | _ => none

end Source

namespace Field

variable {α : Type}

def required (read : Source → Option α) : Field → Option α
  | given source => read source
  | omitted | cut => none

/-- A field that may be null or left out of an object, but not cut from an array. -/
def optional (read : Source → Option α) : Field → Option (Option α)
  | given .null => some none
  | given source => (read source).map some
  | omitted => some none
  | cut => none

/-- A field with a default, which null is not. -/
def orElse (default : α) (read : Source → Option α) : Field → Option α
  | given source => read source
  | omitted | cut => some default

end Field

end ChannelMux.Json
