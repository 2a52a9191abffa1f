import RecordSchema.Json.Quoted

/-!
# Lists and objects in JSON

The two ways in which JSON puts values one after another. `listStep` and `objectStep` find the next
value of a list or the next name of an object; `readElements` and `readMembers` repeat them to the
closing bracket. What an element or a member is, is left to the reader that they are given.
-/

namespace RecordSchema.Json

/-- What stands next in a list or an object, and the text from there on. -/
inductive Step where
  | item (rest : List Char)
  | close (rest : List Char)
deriving DecidableEq, Repr

/-- Find the next element of a list. A comma stands before each but the first. -/
def listStep (first : Bool) (cs : List Char) : Except Fault Step :=
  match skipBlanks cs with
  | [] => .error .truncated
  | ']' :: rest => .ok (.close rest)
  | c :: rest =>
    if first then .ok (.item (c :: rest))
    else if c = ',' then
      match skipBlanks rest with
      | [] => .error .truncated
      | ']' :: _ => .error .malformed
      | rest => .ok (.item rest)
    else .error .malformed

/-- Take the opening quote of a name off a text. -/
def openName : List Char → Except Fault (List Char)
  | [] => .error .truncated
  | '"' :: rest => .ok rest
  | _ :: _ => .error .malformed

/-- Find the next name of an object, past its opening quote. A comma stands before each but the
first. -/
def objectStep (first : Bool) (cs : List Char) : Except Fault Step :=
  match skipBlanks cs with
  | [] => .error .truncated
  | '}' :: rest => .ok (.close rest)
  | c :: rest =>
    if first then .item <$> openName (c :: rest)
    else if c = ',' then .item <$> openName (skipBlanks rest)
    else .error .malformed

/-- Take the colon after a name off a text. -/
def readColon (cs : List Char) : Except Fault (List Char) :=
  match skipBlanks cs with
  | [] => .error .truncated
  | ':' :: rest => .ok rest
  | _ :: _ => .error .malformed

/-- Read the elements of a list up to its closing bracket, in at most so many steps. -/
def readElements {α : Type} (element : Reader α) : (steps : Nat) → (first : Bool) → Reader (List α)
  | 0, _, _ => .error .malformed
  | steps + 1, first, cs => do
    match ← listStep first cs with
    | .close rest => .ok ([], rest)
    | .item rest => do
      let (value, rest) ← element rest
      let (values, rest) ← readElements element steps false rest
      .ok (value :: values, rest)

/-- Read the members of an object up to its closing bracket, in at most so many steps. Each member is
read from inside the quotes of its name, and gathered into what was read before. -/
def readMembers {α : Type} (member : α → Reader α) : (steps : Nat) → (first : Bool) → α → Reader α
  | 0, _, _, _ => .error .malformed
  | steps + 1, first, gathered, cs => do
    match ← objectStep first cs with
    | .close rest => .ok (gathered, rest)
    | .item rest => do
      let (gathered, rest) ← member gathered rest
      readMembers member steps false gathered rest

end RecordSchema.Json
