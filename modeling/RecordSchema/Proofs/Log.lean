import RecordSchema.Log
import RecordSchema.Proofs.Declaration.Provenance

/-!
# The log against the reading

An account tells what happens while a text is read, and works out on its own whether the reading
went through. `Account.Follows` puts it beside what was read:

* it passes if and only if the text is read;
* every entry that was read has its event, behind those of the entries inside it. Other events of
  fields may stand between them: the body of a block is read before the block is dropped.

It is kept by every piece and so by a whole text (`Account.follows_ofText`). What the log says in
the end is then what `parse` and `loadWithin` give: `Event.parsed_mem_ofLoad_iff`,
`Event.accepted_mem_ofLoad_iff`.
-/

namespace RecordSchema

open RecordSchema.Declaration RecordSchema.Text

/-! ### Keys, from below -/

mutual

/-- The key of an entry, behind those of all entries inside it. -/
def Entry.keysUp : Entry → List String
  | ⟨key, _, _, _, children⟩ => Schema.keysUp children ++ [key]

/-- The keys of all entries of a schema, each behind those of the entries inside it. -/
def Schema.keysUp : Schema → List String
  | [] => []
  | entry :: entries => entry.keysUp ++ Schema.keysUp entries

end

@[simp] theorem Schema.keysUp_nil : Schema.keysUp [] = [] := by rw [Schema.keysUp]

@[simp] theorem Schema.keysUp_cons (entry : Entry) (entries : Schema) :
    Schema.keysUp (entry :: entries) = entry.keysUp ++ Schema.keysUp entries := by
  rw [Schema.keysUp]

@[simp] theorem Schema.keysUp_append (front back : Schema) :
    Schema.keysUp (front ++ back) = front.keysUp ++ back.keysUp := by
  induction front with
  | nil => simp
  | cons entry front ih => simp [ih]

theorem Field.keysUp_toLeaf (field : Field) : field.toLeaf.keysUp = [field.key] := by
  rw [Field.toLeaf, Entry.keysUp, Schema.keysUp_nil, List.nil_append]

/-! ### Events of fields -/

/-- The key of the field that an event is about. -/
def Event.key? : Event → Option String
  | .splitField _ key _ => some key
  | _ => none

/-- A field is not read from blanks. -/
theorem Field.trim_ne_nil_of_read {text : List Char} {field : Field}
    (h : Field.read text = .ok (some field)) : trim text ≠ [] := by
  intro hblank
  rw [Field.read, hblank] at h
  cases h

/-- A field that is read has one event, with its key. -/
theorem Event.ofField_of_read {text : List Char} {field : Field}
    (h : Field.read text = .ok (some field)) :
    (ofField text).filterMap key? = [field.key] := by
  obtain ⟨key, typeWord, hsplit, -, hkey, -⟩ := Field.exists_split_of_read h
  unfold ofField
  split
  · next hblank => exact absurd hblank (Field.trim_ne_nil_of_read h)
  · rw [hsplit, hkey]
    rfl

theorem Event.ofHead_of_read {head body : List Char} {depth : Nat} {field : Field}
    (h : Field.read head = .ok (some field)) : ofHead depth head body = ofField head := by
  unfold ofHead
  split
  · rfl
  · split
    · next hblank => exact absurd hblank (Field.trim_ne_nil_of_read h)
    · rfl

theorem Event.detail_of_mem_ofField {text : List Char} {event : Event} (h : event ∈ ofField text) :
    event.detail = .trace := by
  unfold ofField at h
  split at h
  · cases h
  · split at h
    · rw [List.mem_singleton.mp h]
      rfl
    · cases h

theorem Event.detail_of_mem_ofHead {head body : List Char} {depth : Nat} {event : Event}
    (h : event ∈ ofHead depth head body) : event.detail = .trace := by
  unfold ofHead at h
  split at h
  · cases h
  · split at h
    · rw [List.mem_singleton.mp h]
      rfl
    · exact detail_of_mem_ofField h

/-! ### Accounts that follow a reading -/

namespace Account

/-- The keys in an account, in order. -/
def keys (account : Account) : List String := account.events.filterMap Event.key?

/-- The account is one of a reading with this result, and its events are all of the finest detail. -/
structure Follows (account : Account) (result : Except Fault Schema) : Prop where
  passed : account.passed = result.isOk
  keys : ∀ schema, result = .ok schema → schema.keysUp.Sublist account.keys
  detail : ∀ event ∈ account.events, event.detail = .trace

variable {first second : Account}

theorem follows_nothing : Follows ⟨[], true⟩ (.ok []) := by
  refine ⟨rfl, ?_, by simp⟩
  intro schema h
  cases h
  simp

theorem follows_fault (fault : Fault) : Follows ⟨[], false⟩ (.error fault) := by
  refine ⟨rfl, ?_, by simp⟩
  intro schema h
  cases h

/-- Where the first account ends at a fault, so does the reading, and nothing more happens. -/
theorem Follows.andThen_error {fault : Fault} (hfirst : first.Follows (.error fault)) :
    (first.andThen second).Follows (.error fault) := by
  have hpassed : first.passed = false := hfirst.passed
  rw [andThen, if_neg (by simp [hpassed])]
  exact hfirst

theorem andThen_of_passed (h : first.passed = true) :
    first.andThen second = ⟨first.events ++ second.events, second.passed⟩ := by
  rw [andThen, if_pos h]

/-- Accounts of two readings make up one of both. -/
theorem Follows.andThen {x y : Except Fault Schema} (hfirst : first.Follows x)
    (hsecond : second.Follows y) :
    (first.andThen second).Follows (do
      let entries ← x
      let more ← y
      .ok (entries ++ more)) := by
  cases x with
  | error fault => exact hfirst.andThen_error
  | ok entries =>
      rw [andThen_of_passed hfirst.passed, ok_bind]
      refine ⟨?_, ?_, List.forall_mem_append.mpr ⟨hfirst.detail, hsecond.detail⟩⟩
      · rw [hsecond.passed]
        cases y <;> rfl
      · intro schema h
        obtain ⟨more, hmore, h⟩ := bind_eq_ok h
        cases h
        rw [Schema.keysUp_append, Account.keys, List.filterMap_append]
        exact (hfirst.keys _ rfl).append (hsecond.keys _ hmore)

/-! ### Pieces -/

section

variable {inside : List Char → Account} {nested : List Char → Except Fault Schema}

/-- Whether a head can be read does not depend on the children of its block. -/
theorem isOk_readBlock (head body : List Char) (children : Schema) :
    (readBlock head body children).isOk = (readBlock head body []).isOk := by
  unfold readBlock
  split
  · rfl
  · cases Field.read head with
    | error fault => rfl
    | ok field =>
        cases field with
        | none => rfl
        | some field =>
            simp only [ok_bind]
            rw [isOk_bind_ok, isOk_bind_ok]
            unfold Field.toMap
            split <;> rfl

/-- The entries that a piece gives: one, or none. -/
def readEntries (nested : List Char → Except Fault Schema) (piece : Piece) :
    Except Fault Schema := do
  let entry ← readPiece nested piece
  .ok entry.toList

theorem follows_field (depth : Nat) (text : List Char) :
    (ofPiece inside depth (.field text)).Follows (readEntries nested (.field text)) := by
  cases text with
  | nil => exact follows_nothing
  | cons c text =>
      refine ⟨?_, ?_, ?_⟩
      · rw [readEntries, isOk_bind_ok, readPiece, isOk_bind_ok]
        rfl
      · intro schema h
        obtain ⟨entry, hpiece, h⟩ := bind_eq_ok h
        obtain ⟨field, hfield, hentry⟩ := bind_eq_ok hpiece
        cases h
        cases hentry
        cases field with
        | none => simp
        | some field =>
            have hevents := Event.ofField_of_read hfield
            show List.Sublist _ (List.filterMap Event.key? (_ :: _))
            rw [List.filterMap_cons_none rfl, hevents]
            simp [Field.keysUp_toLeaf]
      · intro event h
        rcases List.mem_cons.mp h with rfl | h
        · rfl
        · exact Event.detail_of_mem_ofField h

/-- The account of a block follows its reading if that of its body does. -/
theorem follows_block (head : List Char) {body : List Char}
    (h : (inside body).Follows (nested body)) (depth : Nat) :
    (ofPiece inside depth (.block head body)).Follows (readEntries nested (.block head body)) := by
  rw [readEntries, readPiece, ofPiece]
  cases hbody : nested body with
  | error fault =>
      rw [hbody] at h
      exact h.andThen_error
  | ok children =>
      rw [hbody] at h
      rw [andThen_of_passed h.passed, ok_bind]
      refine ⟨?_, ?_, List.forall_mem_append.mpr ⟨h.detail, fun _ => Event.detail_of_mem_ofHead⟩⟩
      · rw [isOk_bind_ok]
        exact (isOk_readBlock head body children).symm
      · intro schema hschema
        obtain ⟨entry, hblock, hschema⟩ := bind_eq_ok hschema
        cases hschema
        cases entry with
        | none => simp
        | some entry =>
            obtain ⟨field, hfield, rfl⟩ := readBlock_eq_some hblock
            rw [Account.keys, List.filterMap_append, Event.ofHead_of_read hfield,
              Event.ofField_of_read hfield, Option.toList_some, Schema.keysUp_cons,
              Schema.keysUp_nil, List.append_nil, Entry.keysUp]
            exact (h.keys children rfl).append (List.Sublist.refl _)

/-- An account of pieces follows their reading, as the accounts of bodies do. -/
theorem follows_ofPieces (h : ∀ body, (inside body).Follows (nested body)) (depth : Nat)
    (pieces : List Piece) :
    (ofPieces inside depth pieces).Follows (readPieces nested pieces) := by
  induction pieces with
  | nil => exact follows_nothing
  | cons piece pieces ih =>
      have hpiece : (ofPiece inside depth piece).Follows (readEntries nested piece) := by
        cases piece with
        | field text => exact follows_field depth text
        | block head body => exact follows_block head (h body) depth
      have heq : readPieces nested (piece :: pieces) = (do
          let entries ← readEntries nested piece
          let more ← readPieces nested pieces
          .ok (entries ++ more)) := by
        rw [readPieces, readEntries]
        cases readPiece nested piece <;> rfl
      rw [heq]
      exact hpiece.andThen ih

end

/-! ### Texts -/

/-- The end of a scan makes no event. -/
theorem follows_ending (text : List Char) (ending : Ending) :
    Follows ⟨[], ending = .complete⟩ (do
      ending.check text
      .ok []) := by
  cases ending with
  | complete => exact follows_nothing
  | unbalanced => exact follows_fault _
  | crossed opened closed => exact follows_fault _

/-- The account of a text follows its reading, at every depth. -/
theorem follows_ofText (limit levels depth : Nat) (text : List Char) :
    (ofText levels depth text).Follows (parseWithin limit levels text) := by
  induction levels generalizing depth text with
  | zero => exact follows_fault _
  | succ levels ih =>
      have hpieces := follows_ofPieces (fun body => ih (depth + 1) body) depth
        (outline (trim text)).pieces
      have heq : parseWithin limit (levels + 1) text = (do
          let entries ← readPieces (parseWithin limit levels) (outline (trim text)).pieces
          let more ← (do
            (outline (trim text)).ending.check (trim text)
            .ok [])
          .ok (entries ++ more)) := by
        rw [parseWithin]
        cases readPieces (parseWithin limit levels) (outline (trim text)).pieces with
        | error fault => rfl
        | ok entries => cases (outline (trim text)).ending.check (trim text) <;> simp
      rw [heq]
      exact hpieces.andThen (follows_ending _ _)

/-- An account passes if and only if its text is read. -/
theorem passed_ofText (limit depth : Nat) (text : String) :
    (ofText (limit + 1) depth text.toList).passed = (parse limit text).isOk :=
  (follows_ofText limit (limit + 1) depth text.toList).passed

end Account

/-! ### Logs -/

namespace Event

variable {limit n : Nat} {text : String}

/-- The log tells all entries that were read, each behind those inside it. -/
theorem keysUp_sublist_ofLoad {schema : Schema} (h : parse limit text = .ok schema) :
    schema.keysUp.Sublist ((ofLoad limit text).filterMap key?) := by
  have hkeys := (Account.follows_ofText limit (limit + 1) 0 text.toList).keys schema h
  rw [ofLoad, List.filterMap_append]
  exact hkeys.trans (List.sublist_append_left _ _)

/-- Reading alone makes no event that less detail would show. -/
theorem mem_ofLoad_iff {event : Event} (h : event.detail = .debug) :
    event ∈ ofLoad limit text ↔
      ∃ schema, parse limit text = .ok schema ∧ event ∈ .parsed schema.length :: ofAccept schema := by
  have hdetail := (Account.follows_ofText limit (limit + 1) 0 text.toList).detail
  have hnot : event ∉ (Account.ofText (limit + 1) 0 text.toList).events := by
    intro hmem
    rw [hdetail event hmem] at h
    cases h
  rw [ofLoad, List.mem_append, or_iff_right hnot]
  cases parse limit text with
  | error fault => simp
  | ok schema => simp

/-- The log says that so many entries were read if and only if they were. -/
theorem parsed_mem_ofLoad_iff :
    .parsed n ∈ ofLoad limit text ↔ ∃ schema, parse limit text = .ok schema ∧ schema.length = n := by
  rw [mem_ofLoad_iff rfl]
  have hnot (schema : Schema) : .parsed n ∉ ofAccept schema := by
    unfold ofAccept
    split <;> simp
  simp [hnot, eq_comm]

/-- The log says that so many entries were accepted if and only if they were loaded. -/
theorem accepted_mem_ofLoad_iff :
    .accepted n ∈ ofLoad limit text ↔
      ∃ schema, loadWithin limit text = .ok schema ∧ schema.length = n := by
  rw [mem_ofLoad_iff rfl, loadWithin]
  cases parse limit text with
  | error fault => simp [Except.mapError]
  | ok schema =>
      cases haccept : schema.accept with
      | error rejection => simp [Except.mapError, ofAccept, haccept]
      | ok _ => simp [Except.mapError, ofAccept, haccept, eq_comm]

end Event

end RecordSchema
