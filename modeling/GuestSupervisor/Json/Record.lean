import GuestSupervisor.Json.Reading

/-!
# Records in JSON

A record is written as an object with its fields as members, or as an array of
its fields in their declared order. This module reads both forms, field by field
in the order of the text.

## Main Definitions

* `Record`: the fields of a record, each with how its value is taken in.
* `Record.read`: a record from a tree, or the first problem met.

## Design Notes

In an object, members of other names are passed over, a field given twice does not
fit, and a field may be missing unless it is required. In an array a field may be
missing only if the record says so. What follows the last field does not fit,
except where the record says that it is passed over.
-/

namespace GuestSupervisor

/-- One field of a record of type `σ`. -/
structure RecordField (σ : Type) where
  name : String
  /-- Takes the field's value into the record. -/
  take : Reading → σ → Except Problem σ
  /-- Whether an object must have the field. -/
  needed : Bool
  /-- Whether an array must reach the field. -/
  neededInArray : Bool

/-- The fields of a record in their declared order. -/
structure Record (σ : Type) where
  fields : List (RecordField σ)
  /-- The record before any field is read. -/
  start : σ
  /-- Whether an array may go on behind the last field. -/
  goesOn : Bool := false

namespace Record

variable {σ : Type}

/-- Reads members one after the other; `given` lists the fields met so far. -/
def readMembers (record : Record σ) (given : List String) (state : σ) :
    List (Option String × Reading) → Except Problem (σ × List String)
  | [] => .ok (state, given)
  | (none, _) :: _ => .error .malformed
  | (some name, value) :: rest =>
    match record.fields.find? (·.name == name) with
    | none => do
      value.checkIntact
      record.readMembers given state rest
    | some field =>
      if given.contains name then .error .mismatch
      else do
        let state ← field.take value state
        record.readMembers (name :: given) state rest

/-- Reads items into the fields in order. -/
def readItems (goesOn : Bool) (state : σ) :
    List (RecordField σ) → List Reading → Bool → Except Problem σ
  | [], [], closed => if closed then .ok state else .error .malformed
  | [], _ :: _, _ => if goesOn then .ok state else .error .malformed
  | field :: fields, [], closed =>
    if !closed then .error .malformed
    else if (field :: fields).any (·.neededInArray) then .error .mismatch
    else .ok state
  | field :: fields, item :: items, closed => do
    let state ← field.take item state
    readItems goesOn state fields items closed

/-- The record that a tree holds. -/
def read (record : Record σ) (tree : Reading) : Except Problem σ :=
  match tree with
  | .object members closed => do
    let (state, given) ← record.readMembers [] record.start members
    if !closed then .error .malformed
    else if record.fields.all (fun field => !field.needed || given.contains field.name) then
      .ok state
    else .error .mismatch
  | .array items closed => readItems record.goesOn record.start record.fields items closed
  | other => .error other.refusal

/-- The record that a text holds, with nothing but blanks behind it. -/
def readText (record : Record σ) (text : List Char) : Except Problem σ :=
  let (tree, atEnd) := Reading.ofText text
  match record.read tree with
  | .error problem => .error problem
  | .ok state => if atEnd then .ok state else .error .malformed

end Record

end GuestSupervisor
