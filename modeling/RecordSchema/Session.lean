import RecordSchema.Json.Decode
import RecordSchema.Json.Encode
import RecordSchema.Load

/-!
# Sessions

A session works on a list of entries in steps: it reads declarations, builds entries by hand, groups
them into maps, and writes and reads the list again. Each step gives an answer. A step that fails
leaves the session as it was.
-/

namespace RecordSchema

open RecordSchema.Declaration

/-- What a session remembers between two steps. -/
structure Session where
  limit : Nat := defaultLimit   -- of the declarations that are read
  entries : Schema := []
deriving DecidableEq, Repr

namespace Session

/-- A step of a session. Types are given by their names; what is changed or removed is the last
entry. -/
inductive Step where
  | configure (limit : Option Nat)
  | parse (text : String)
  | addField (key typeName : String)
  | addArray (key elementName : String)
  | group (key : String) (count : Nat)   -- put the last entries into a map
  | require
  | setElement (elementName : Option String)
  | pop
  | clear
  | accept
  | reparse   -- write the entries as a declaration and read them back
  | encode    -- write them as JSON and compare them with what is read back
deriving DecidableEq, Repr

/-- The answer to a step. -/
inductive Answer where
  | limit (limit : Nat)
  | appended (count : Nat)
  | entry (entry : Entry)
  | nothing
  | unknownType (name : String)
  | unreadable (fault : Fault)
  | accepted
  | rejected (rejection : Rejection)
  | same (same : Bool)
  | json (text : String) (same : Bool)
deriving DecidableEq, Repr

/-- Append an entry, which is the answer. -/
def append (session : Session) (entry : Entry) : Session × Answer :=
  ({ session with entries := session.entries ++ [entry] }, .entry entry)

/-- Go on with the type that has this name. -/
def withType (session : Session) (name : String) (next : FieldType → Session × Answer) :
    Session × Answer :=
  match FieldType.ofName? name with
  | some type => next type
  | none => (session, .unknownType name)

/-- Change the last entry, which is the answer. Without entries, nothing happens. -/
def changeLast (session : Session) (change : Entry → Entry) : Session × Answer :=
  match session.entries.getLast? with
  | none => (session, .nothing)
  | some last =>
    ({ session with entries := session.entries.dropLast ++ [change last] }, .entry (change last))

/-- Put the last entries into a map, so many of them or all. -/
def groupLast (session : Session) (key : String) (count : Nat) : Session × Answer :=
  let kept := session.entries.length - count
  append { session with entries := session.entries.take kept }
    (.map key (session.entries.drop kept))

/-- Take one step. -/
def step (session : Session) : Step → Session × Answer
  | .configure limit =>
    let limit := limit.getD defaultLimit
    ({ session with limit }, .limit limit)
  | .parse text =>
    match Declaration.parse session.limit text with
    | .ok entries =>
      ({ session with entries := session.entries ++ entries }, .appended entries.length)
    | .error fault => (session, .unreadable fault)
  | .addField key typeName => session.withType typeName fun type => session.append (.field key type)
  | .addArray key elementName =>
    session.withType elementName fun element => session.append (.array key element)
  | .group key count => session.groupLast key count
  | .require => session.changeLast Entry.require
  | .setElement none => session.changeLast (·.withElement none)
  | .setElement (some name) =>
    session.withType name fun element => session.changeLast (·.withElement (some element))
  | .pop =>
    match session.entries.getLast? with
    | none => (session, .nothing)
    | some last => ({ session with entries := session.entries.dropLast }, .entry last)
  | .clear => ({ session with entries := [] }, .nothing)
  | .accept =>
    match session.entries.accept with
    | .ok _ => (session, .accepted)
    | .error rejection => (session, .rejected rejection)
  | .reparse =>
    match session.entries.reread session.limit with
    | .ok (entries, same) => ({ session with entries }, .same same)
    | .error fault => (session, .unreadable fault)
  | .encode =>
    let text := session.entries.toJson
    let same := match Json.decode text with
      | .ok entries => decide (entries = session.entries)
      | .error _ => false
    (session, .json text same)

/-- What is told after a step. -/
structure Report where
  answer : Answer
  count : Nat     -- of the entries after the step
  text : String   -- their canonical declaration
deriving DecidableEq, Repr

/-- Take steps one after another, with a report on each. -/
def run : Session → List Step → List Report
  | _, [] => []
  | session, first :: steps =>
    let (next, answer) := session.step first
    ⟨answer, next.entries.length, next.entries.render⟩ :: run next steps

end Session

end RecordSchema
