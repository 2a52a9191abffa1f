import RecordSchema.Proofs.Declaration.Field

/-!
# Where faults come from

A fault is raised in one of three places. A field, or the head of a block, raises a fault of its own
(`Fault.IsLocal`), the end of a scan one about the whole text, and the last level one about a block
that lies too deep. Only local faults are raised between the bodies of blocks, so a change of faults
that spares them passes through the reading of an outline (`readOutline_mapError`): reading with
changed bodies is changing what was read.
-/

namespace RecordSchema.Declaration

open RecordSchema.Text

/-- The faults of a single field, or of a block whose body was read. -/
inductive Fault.IsLocal : Fault → Prop
  | wordCount (segment : String) : IsLocal (.wrongWordCount segment)
  | element (segment : String) : IsLocal (.missingElement segment)
  | tag (segment key tag word : String) : IsLocal (.inField segment key tag (.unknownTag word))
  | arrayTag (segment key tag word : String) :
      IsLocal (.inField segment key tag (.missingElement word))
  | unnamed (block : String) : IsLocal (.unnamedBlock block)

/-! ### Faults of fields -/

/-- A tag is reported in its field, and only what tags can do wrong is reported so. -/
theorem isLocal_of_inField_readTag {segment key tag word : List Char} {fault : Fault}
    (h : inField segment key tag (readTag word) = .error fault) : fault.IsLocal := by
  cases hread : readTag word with
  | ok type =>
      rw [hread] at h
      cases h
  | error cause =>
      rw [hread] at h
      cases h
      cases readTag_eq_iff.mp hread with
      | array _ => exact .arrayTag ..
      | unknown _ _ => exact .tag ..

theorem Field.isLocal_of_types {segment key tag : List Char} {fault : Fault}
    (h : Field.types segment key tag = .error fault) : fault.IsLocal := by
  rw [Field.types] at h
  split at h
  · split at h
    · cases h
      exact .element _
    · rcases bind_eq_error h with h | ⟨inner, -, h⟩
      · exact isLocal_of_inField_readTag h
      · cases inner with
        | none =>
            cases h
            exact .element _
        | some inner => cases h
  · rcases bind_eq_error h with h | ⟨type, -, h⟩
    · exact isLocal_of_inField_readTag h
    · cases h

theorem Field.isLocal_of_split {segment : List Char} {fault : Fault}
    (h : Field.split segment = .error fault) : fault.IsLocal := by
  rw [Field.split] at h
  split at h
  · cases h
  · cases h
  · cases h
    exact .wordCount _

/-- All faults of a field are its own. -/
theorem Field.isLocal_of_read {text : List Char} {fault : Fault}
    (h : Field.read text = .error fault) : fault.IsLocal := by
  rw [Field.read] at h
  split at h
  · cases h
  · rcases bind_eq_error h with h | ⟨⟨key, typeWord⟩, hs, h⟩
    · exact Field.isLocal_of_split h
    · -- a word is not empty, so a key is never missing
      have hkey : key ≠ [] := (mem_words (Field.split_sound hs)).1
      dsimp only at h
      rw [if_neg (by simpa using hkey)] at h
      rcases bind_eq_error h with h | ⟨types, -, h⟩
      · exact Field.isLocal_of_types h
      · cases h

theorem Field.isLocal_of_toMap {field : Field} {block : List Char} {children : Schema}
    {fault : Fault} (h : field.toMap block children = .error fault) : fault.IsLocal := by
  rw [Field.toMap] at h
  split at h
  · cases h
  · cases h
    exact .tag ..

/-- Once the body of a block is read, all faults of the block are its own. -/
theorem isLocal_of_readBlock {head body : List Char} {children : Schema} {fault : Fault}
    (h : readBlock head body children = .error fault) : fault.IsLocal := by
  rw [readBlock] at h
  split at h
  · cases h
    exact .unnamed _
  · rcases bind_eq_error h with h | ⟨field, -, h⟩
    · exact Field.isLocal_of_read h
    · cases field with
      | none => cases h
      | some field =>
          rcases bind_eq_error h with h | ⟨entry, -, h⟩
          · exact Field.isLocal_of_toMap h
          · cases h

/-! ### Changing faults -/

/-- A change of faults that leaves local faults alone. -/
def SparesLocal (change : Fault → Fault) : Prop := ∀ fault, fault.IsLocal → change fault = fault

section

variable {nested nested' : List Char → Except Fault Schema} {change : Fault → Fault}

/-- Where only local faults can come up, such a change does nothing. -/
theorem mapError_eq_self {α : Type} {x : Except Fault α} (hchange : SparesLocal change)
    (hx : ∀ fault, x = .error fault → fault.IsLocal) : x.mapError change = x := by
  cases x with
  | ok a => rfl
  | error fault => exact congrArg Except.error (hchange fault (hx fault rfl))

/-- The fault of a piece changes if and only if it comes from the body of a block. -/
theorem readPiece_mapError (hchange : SparesLocal change) {piece : Piece}
    (hnested : ∀ head body, piece = .block head body →
      nested' body = (nested body).mapError change) :
    readPiece nested' piece = (readPiece nested piece).mapError change := by
  cases piece with
  | field w =>
      rw [readPiece, readPiece, mapError_bind,
        mapError_eq_self hchange fun fault h => Field.isLocal_of_read h]
      rfl
  | block head body =>
      rw [readPiece, readPiece, mapError_bind, hnested head body rfl]
      congr 1
      funext children
      exact (mapError_eq_self hchange fun fault h => isLocal_of_readBlock h).symm

/-- Step by step the change passes from the bodies to the first fault of the pieces. -/
theorem readPieces_mapError (hchange : SparesLocal change) {pieces : List Piece}
    (hnested : ∀ head body, .block head body ∈ pieces →
      nested' body = (nested body).mapError change) :
    readPieces nested' pieces = (readPieces nested pieces).mapError change := by
  induction pieces with
  | nil => rfl
  | cons piece pieces ih =>
      have hpiece : readPiece nested' piece = (readPiece nested piece).mapError change := by
        apply readPiece_mapError hchange
        rintro head body rfl
        exact hnested head body List.mem_cons_self
      have hpieces := ih fun head body h => hnested head body (List.mem_cons_of_mem _ h)
      rw [readPieces, readPieces, hpiece, hpieces, mapError_bind]
      simp only [mapError_bind]
      rfl

/-- A change that spares local faults may be made in the bodies of the blocks and at the end of the
scan, or in the result. -/
theorem readOutline_mapError (hchange : SparesLocal change) {whole whole' : List Char}
    {found : Outline}
    (hnested : ∀ head body, .block head body ∈ found.pieces →
      nested' body = (nested body).mapError change)
    (hending : found.ending.check whole' = (found.ending.check whole).mapError change) :
    readOutline nested' whole' found = (readOutline nested whole found).mapError change := by
  rw [readOutline, readOutline, mapError_bind, readPieces_mapError hchange hnested, hending]
  simp only [mapError_bind]
  rfl

end

end RecordSchema.Declaration
