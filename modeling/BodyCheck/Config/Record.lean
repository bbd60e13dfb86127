import BodyCheck.Config.Fault
import BodyCheck.Json.Skip

/-!
# Records in configurations

A record is read from an object or from an array.  In an object, unknown keys are skipped, missing
ones keep their default, and no field may be given twice.  In an array the fields stand in their
order, and those missing at the end keep their default.

`readRecord` serves every record: it takes the fields as a list of readers, each of which reads the
value of one field into the record.
-/

namespace BodyCheck

namespace Config

/-- A value of another type than the expected one, at the first character of which reading stands.
What can be shown of it is read. -/
def wrongType {α : Type} (expected : Expected) (c : Cursor) : Except Fault α := do
  match c.rest with
  | 'n' :: rest =>
    let c ← json (Cursor.letters ['u', 'l', 'l'] ⟨rest, c.offset + 1⟩)
    failHere c (.wrongType .null expected)
  | 't' :: rest =>
    let c ← json (Cursor.letters ['r', 'u', 'e'] ⟨rest, c.offset + 1⟩)
    failHere c (.wrongType (.boolean true) expected)
  | 'f' :: rest =>
    let c ← json (Cursor.letters ['a', 'l', 's', 'e'] ⟨rest, c.offset + 1⟩)
    failHere c (.wrongType (.boolean false) expected)
  | '-' :: rest =>
    let (n, c) ← json (Json.numberPart true ⟨rest, c.offset + 1⟩)
    failHere c (.wrongType (.number n) expected)
  | '"' :: rest =>
    let (s, c) ← json (Json.stringPart ⟨rest, c.offset + 1⟩)
    failHere c (.wrongType (.string s) expected)
  | '[' :: _ => failHere c (.wrongType .sequence expected)
  | '{' :: _ => failHere c (.wrongType .map expected)
  | ch :: _ =>
    if ch.isDigit then
      let (n, c) ← json (Json.numberPart false c)
      failHere c (.wrongType (.number n) expected)
    else json (c.beyond .missingValue)
  | [] => json (c.here .unfinishedValue)

/-! ## Fields -/

/-- A field of a record: its names, the first of which is its own, and the reader that puts its
value into a record.  The reader is told how many containers may still be opened. -/
structure Entry (σ : Type) where
  name : String
  otherName : Option String := none
  read : Nat → σ → Reader σ

/-- The field goes by the name. -/
def Entry.goesBy {σ : Type} (e : Entry σ) (name : String) : Bool :=
  e.name == name || e.otherName == some name

variable {σ : Type}

/-! ## Records as objects -/

/-- Reading stands here after an object has been closed, if it can be closed. -/
def afterObject (c : Cursor) : Cursor :=
  let c := c.skipBlanks
  match c.rest with
  | '}' :: rest => ⟨rest, c.offset + 1⟩
  | _ => c

/-- Reads the value of a key into a record. -/
def member (entries : List (Entry σ)) (depth : Nat) (seen : List String) (record : σ)
    (key : String) (c : Cursor) : Except Fault (List String × σ × Cursor) :=
  match entries.find? (·.goesBy key) with
  | none => do
    let c ← json (Json.colon c)
    let c ← under (.key key) (json (Json.skipValue c))
    return (seen, record, c)
  | some e => do
    if seen.contains e.name then failPending c (.duplicateField e.name)
    else
      let c ← json (Json.colon c)
      let (record, c) ← under (.key key) (e.read depth record c)
      return (e.name :: seen, record, c)

/-- Reads members into a record, from the quote of a key up to and including the closing brace. -/
def members (entries : List (Entry σ)) (depth : Nat) :
    (bound : Nat) → (seen : List String) → σ → Reader σ
  | 0, _, _, c => under .unnamed (json (c.here .unfinishedValue))
  | n + 1, seen, record, c => do
    let (key, c) ← json (Json.key c)
    let (seen, record, c) ← member entries depth seen record key c
    let c := c.skipBlanks
    match c.rest with
    | [] => under .unnamed (json (c.here .unfinishedObject))
    | '}' :: rest => return (record, ⟨rest, c.offset + 1⟩)
    | ',' :: rest =>
      let c := (⟨rest, c.offset + 1⟩ : Cursor).skipBlanks
      match c.rest with
      | [] => under .unnamed (json (c.here .unfinishedValue))
      | '}' :: _ => under .unnamed (json (c.beyond .trailingComma))
      | _ :: _ => members entries depth n seen record c
    | _ :: _ => under .unnamed (json (c.beyond .missingObjectComma))

/-- Reads an object into a record, after the opening brace. -/
def fromObject (entries : List (Entry σ)) (depth : Nat) (record : σ) : Reader σ := fun c =>
  let c := c.skipBlanks
  match c.rest with
  | [] => under .unnamed (json (c.here .unfinishedObject))
  | '}' :: rest => .ok (record, ⟨rest, c.offset + 1⟩)
  | rest => members entries depth rest.length [] record c

/-! ## Records as arrays -/

/-- Reading stands here after an array has been closed, if it can be closed. -/
def afterArray (c : Cursor) : Cursor :=
  let c := c.skipBlanks
  match c.rest with
  | ']' :: rest => ⟨rest, c.offset + 1⟩
  | ',' :: rest => (⟨rest, c.offset + 1⟩ : Cursor).skipBlanks
  | _ => c

/-- Closes an array behind the values of all fields. -/
def closeArray (c : Cursor) : Except Fault Cursor :=
  let c := c.skipBlanks
  match c.rest with
  | [] => json (c.here .unfinishedList)
  | ']' :: rest => .ok ⟨rest, c.offset + 1⟩
  | ',' :: rest =>
    let c := (⟨rest, c.offset + 1⟩ : Cursor).skipBlanks
    match c.rest with
    | ']' :: _ => json (c.beyond .trailingComma)
    | _ => json (c.ahead .trailingText)
  | _ :: _ => json (c.beyond .trailingText)

/-- Reads the values of fields that stand behind another one. -/
def moreElements (depth : Nat) : List (Entry σ) → (index : Nat) → σ → Reader σ
  | [], _, record, c => .ok (record, c)
  | e :: rest, index, record, c => do
    let c := c.skipBlanks
    match c.rest with
    | [] => json (c.here .unfinishedList)
    | ']' :: _ => return (record, c)
    | ',' :: after =>
      let c := (⟨after, c.offset + 1⟩ : Cursor).skipBlanks
      match c.rest with
      | [] => json (c.here .unfinishedValue)
      | ']' :: _ => json (c.beyond .trailingComma)
      | _ :: _ =>
        let (record, c) ← under (.element index) (e.read depth record c)
        moreElements depth rest (index + 1) record c
    | _ :: _ => json (c.beyond .missingListComma)

/-- Reads the values of fields in their order. -/
def elements (entries : List (Entry σ)) (depth : Nat) (record : σ) : Reader σ := fun c => do
  match entries with
  | [] => return (record, c)
  | e :: rest =>
    let c := c.skipBlanks
    match c.rest with
    | [] => json (c.here .unfinishedList)
    | ']' :: _ => return (record, c)
    | _ :: _ =>
      let (record, c) ← under (.element 0) (e.read depth record c)
      moreElements depth rest 1 record c

/-- Reads an array into a record, after the opening bracket. -/
def fromArray (entries : List (Entry σ)) (depth : Nat) (record : σ) : Reader σ := fun c => do
  let (record, c) ← settle afterArray (elements entries depth record c)
  return (record, ← closeArray c)

/-! ## Records -/

/-- Reads a record.  The fields that are not given keep the values they have. -/
def readRecord (name : String) (entries : List (Entry σ)) (record : σ) (depth : Nat) :
    Reader σ := fun c =>
  let c := c.skipBlanks
  match c.rest with
  | '{' :: rest =>
    match depth with
    | 0 => json (c.beyond .nestedTooDeep)
    | depth + 1 => settle afterObject (fromObject entries depth record ⟨rest, c.offset + 1⟩)
  | '[' :: rest =>
    match depth with
    | 0 => json (c.beyond .nestedTooDeep)
    | depth + 1 => fromArray entries depth record ⟨rest, c.offset + 1⟩
  | _ => wrongType (.record name) c

end Config

end BodyCheck
