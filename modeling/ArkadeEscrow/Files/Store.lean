import ArkadeEscrow.Files.Volume
import ArkadeEscrow.SpendStore
import ArkadeEscrow.Error

/-!
# The file-based store

One file for each pending spend, in one directory. The name of the file is the hash of the id.
A record is written to a file of the same name with another extension, which is synced and then
renamed, and the directory is synced last. A `FileSpendStore` keeps nothing in memory but its
directory.

`createDirAll` is `std::fs::create_dir_all`. The steps `opening .. for sync` and `syncing ..` of
the directory are those of a Unix system.
-/

set_option autoImplicit false

namespace ArkadeEscrow
namespace Files

open Interaction

/-- What the store takes from other crates: the hash, and the JSON of a record. -/
structure FileLib where
  sha256 : List UInt8 → Vector UInt8 32
  toStringPretty : PendingSpend → Except String String
  fromStr : String → Except String PendingSpend

/-- A step that can fail with an I/O error. -/
abbrev IoAction (α : Type) := Fallible interface IoError α

abbrev Action (α : Type) := Fallible interface Error α

def IoError.toError (e : IoError) : Error := .msg e.text

/-- `result.with_context(text)` on an I/O action. -/
def inContext {α : Type} (text : String) (x : IoAction α) : Action α :=
  ExceptT.mk ((fun r => r.mapError fun e => e.toError.context text) <$> x.run)

/-- A check of the store's own. -/
def check {α : Type} (r : Except Error α) : Action α := ExceptT.mk (.done r)

/-! ## The requests as actions -/

def step (s : Step) : IoAction Unit := ExceptT.mk (Program.request (I := interface) (.step s))

def isDir (path : Path) : IoAction Bool :=
  ExceptT.lift (Program.request (I := interface) (.isDir path))

/-- The string with these bytes. -/
def decodeUtf8 (bytes : List UInt8) : Option String := String.fromUTF8? ⟨bytes.toArray⟩

def encodeUtf8 (text : String) : List UInt8 := text.toUTF8.data.toList

/-- `std::fs::read_to_string`. -/
def readToString (path : Path) : IoAction String := do
  let bytes ← ExceptT.mk (Program.request (I := interface) (.read path))
  match decodeUtf8 bytes with
  | some text => return text
  | none => throw ⟨.other, "stream did not contain valid UTF-8"⟩

/-- The end of `createDirAll`: there is a directory already. -/
def unlessDir (path : Path) (e : IoError) : IoAction Unit := do
  if ← isDir path then return () else throw e

/-- `std::fs::create_dir_all`. -/
def createDirAll : Path → IoAction Unit
  | [] => do
      match ← (step (.mkdir [])).attempt with
      | .ok () => return ()
      | .error e =>
          if e.kind = .notFound then throw ⟨.other, "failed to create whole tree"⟩
          else unlessDir [] e
  | name :: dir => do
      match ← (step (.mkdir (name :: dir))).attempt with
      | .ok () => return ()
      | .error e =>
          if e.kind = .notFound then do
            createDirAll dir
            match ← (step (.mkdir (name :: dir))).attempt with
            | .ok () => return ()
            | .error e => unlessDir (name :: dir) e
          else unlessDir (name :: dir) e

/-! ## Paths -/

/-- `path.display()`. -/
def display (path : Path) : String := "/" ++ "/".intercalate path.reverse

/-- `Path::file_stem`: the name up to its last dot, if that is not its first character. -/
def fileStem (name : String) : String :=
  match name.toList.reverse.dropWhile (· != '.') with
  | [] | [_] => name
  | _ :: stem => String.ofList stem.reverse

/-- `path.with_extension(extension)`. -/
def withExtension (extension : String) : Path → Path
  | [] => []
  | name :: dir => (fileStem name ++ "." ++ extension) :: dir

/-! ## The store -/

structure FileSpendStore where
  dir : Path

namespace FileSpendStore

/-- The directory is created if it does not exist. -/
def new (dir : Path) : Action FileSpendStore := do
  inContext s!"creating spend store directory: {display dir}" (createDirAll dir)
  return ⟨dir⟩

variable (L : FileLib) (store : FileSpendStore)

/-- The file of an id. -/
def pathFor (id : String) : Path :=
  (toLowerHex (L.sha256 (encodeUtf8 id)).toList ++ ".json") :: store.dir

def syncDir : Action Unit := do
  inContext s!"opening {display store.dir} for sync" (step (.openDir store.dir))
  inContext s!"syncing {display store.dir}" (step (.syncDir store.dir))

/-- Write a temporary file and sync it, rename it over the target, and sync the directory. -/
def save (spend : PendingSpend) : Action Unit := do
  let path := store.pathFor L spend.id
  let json ← check (withContext "serializing pending spend" (ofDisplay (L.toStringPretty spend)))
  let tmp := withExtension "tmp" path
  inContext s!"creating {display tmp}" (step (.create tmp))
  inContext s!"writing {display tmp}" (step (.write tmp (encodeUtf8 json)))
  inContext s!"syncing {display tmp}" (step (.syncFile tmp))
  inContext s!"renaming {display tmp} → {display path}" (step (.rename tmp path))
  store.syncDir

def load (id : String) : Action (Option PendingSpend) := do
  let path := store.pathFor L id
  match ← ExceptT.lift (readToString path).run with
  | .ok json => do
      let spend ← check (withContext s!"parsing {display path}" (ofDisplay (L.fromStr json)))
      return some spend
  | .error e =>
      if e.kind = .notFound then return none
      else throw (e.toError.context s!"reading {display path}")

def remove (id : String) : Action Unit := do
  let path := store.pathFor L id
  match ← ExceptT.lift (step (.removeFile path)).run with
  | .ok () => store.syncDir
  | .error e =>
      if e.kind = .notFound then return ()
      else throw (e.toError.context s!"removing {display path}")

end FileSpendStore

/-! ## Names -/

/-- What has been written as a string is read as one. -/
theorem decodeUtf8_encodeUtf8 (text : String) : decodeUtf8 (encodeUtf8 text) = some text := by
  have bytes : (⟨(encodeUtf8 text).toArray⟩ : ByteArray) = text.toByteArray := rfl
  rw [decodeUtf8, bytes, String.fromUTF8?, dif_pos]
  rfl

/-- An extension is what follows the last dot, unless the name starts there. -/
theorem fileStem_append {stem : String} (nonempty : stem ≠ "") :
    fileStem (stem ++ ".json") = stem := by
  have reversed : (stem ++ ".json").toList.reverse.dropWhile (· != '.') =
      '.' :: stem.toList.reverse := by
    simp [List.dropWhile]
  rw [fileStem, reversed]
  cases rest : stem.toList.reverse with
  | nil => exact absurd (by simpa using rest) nonempty
  | cons c cs => simp [← rest]

namespace FileSpendStore

variable {L : FileLib} {store : FileSpendStore}

/-- The hash of an id, which is never empty. -/
def hashed (L : FileLib) (id : String) : String :=
  toLowerHex (L.sha256 (encodeUtf8 id)).toList

/-- The temporary file of an id. -/
def tmpFor (L : FileLib) (store : FileSpendStore) (id : String) : Path :=
  (hashed L id ++ ".tmp") :: store.dir

theorem hashed_ne_empty (id : String) : hashed L id ≠ "" := by
  intro empty
  have none : (L.sha256 (encodeUtf8 id)).toList = [] := toLowerHex_injective empty
  have length := congrArg List.length none
  simp at length

theorem withExtension_pathFor (id : String) :
    withExtension "tmp" (store.pathFor L id) = store.tmpFor L id := by
  show (fileStem (hashed L id ++ ".json") ++ "." ++ "tmp") :: store.dir = _
  rw [fileStem_append (hashed_ne_empty id), String.append_assoc]
  rfl

/-- **Records of one file are of one hash.** -/
theorem sha256_eq_of_pathFor_eq {id id' : String}
    (same : store.pathFor L id = store.pathFor L id') :
    L.sha256 (encodeUtf8 id) = L.sha256 (encodeUtf8 id') := by
  have names : hashed L id ++ ".json" = hashed L id' ++ ".json" := (List.cons.inj same).1
  have hashes : hashed L id = hashed L id' := by simpa using names
  exact Vector.toList_inj.mp (toLowerHex_injective hashes)

/-- No record is kept in a temporary file. -/
theorem pathFor_ne_tmpFor (id id' : String) : store.pathFor L id ≠ store.tmpFor L id' := by
  intro same
  have names : hashed L id ++ ".json" = hashed L id' ++ ".tmp" := (List.cons.inj same).1
  have last := congrArg (fun name => name.toList.reverse.head?) names
  simp at last

end FileSpendStore

end Files
end ArkadeEscrow
