import ArkadeEscrow.Interaction.Sequence
import Mathlib.Logic.Function.Basic

/-!
# A file system that can lose power

A volume says for every path what its name refers to now, and what it has referred to since its
directory was last synced. What a program sees is what the names refer to now (`lookup`).
After a power loss every name refers to one of the others or to that, and a file that has not been
synced since it was last written may hold anything (`PowerLoss`).

No file has two names, and there are no links. A change happens whole or not at all, except that
a write can be done in part (`Interrupted`). Reading does not fail on a file that is there.
-/

set_option autoImplicit false

namespace ArkadeEscrow
namespace Files

open Interaction

/-- The names on the way to a place, the innermost one first. The root has none. -/
abbrev Path := List String

/-- `synced`: the file has been synced since it was last written. -/
structure File where
  contents : List UInt8
  synced : Bool
  deriving DecidableEq

inductive Node where
  | directory
  | file (file : File)
  deriving DecidableEq

/-- What a name refers to, and what else it has referred to since its directory was synced. -/
structure Slot where
  now : Option Node
  earlier : List (Option Node)

namespace Slot

def empty : Slot := ⟨none, []⟩

/-- What the name may refer to after a power loss. -/
def May (s : Slot) (x : Option Node) : Prop := x = s.now ∨ x ∈ s.earlier

/-- The name refers to something else. -/
def put (s : Slot) (x : Option Node) : Slot := ⟨x, s.now :: s.earlier⟩

/-- What the name refers to is changed in place. -/
def change (s : Slot) (x : Option Node) : Slot := ⟨x, s.earlier⟩

def sync (s : Slot) : Slot := ⟨s.now, []⟩

/-- The same slot, or the same one synced. -/
def Settled (s s' : Slot) : Prop := s' = s ∨ s' = s.sync

theorem Settled.now {s s' : Slot} (settled : s.Settled s') : s'.now = s.now := by
  rcases settled with rfl | rfl <;> rfl

theorem Settled.sync {s s' : Slot} (settled : s.Settled s') : s.Settled s'.sync := by
  rcases settled with rfl | rfl <;> exact .inr rfl

theorem Settled.may {s s' : Slot} (settled : s.Settled s') {x : Option Node} (may : s'.May x) :
    s.May x := by
  rcases settled with rfl | rfl
  · exact may
  · rcases may with same | member
    · exact .inl same
    · cases member

theorem may_put {s : Slot} {x y : Option Node} : (s.put x).May y ↔ y = x ∨ s.May y := by
  simp [May, put]

end Slot

abbrev Volume := Path → Slot

inductive ErrorKind where
  | notFound | notADirectory | other
  deriving DecidableEq

structure IoError where
  kind : ErrorKind
  text : String

namespace Volume

/-- What is found under a name. -/
def named : Option Node → Except ErrorKind Node
  | some node => .ok node
  | none => .error .notFound

/-- What is found at a path. -/
def lookup (v : Volume) : Path → Except ErrorKind Node
  | [] => .ok .directory
  | name :: dir =>
      match lookup v dir with
      | .ok .directory => named (v (name :: dir)).now
      | .ok (.file _) => .error .notADirectory
      | .error kind => .error kind

/-- A new directory, and nothing in it. -/
def makeDir (v : Volume) (path : Path) : Volume := fun p =>
  if p = path then (v p).put (some .directory)
  else if p.tail? = some path then .empty
  else v p

/-- The names in a directory are durable. -/
def syncDir (v : Volume) (path : Path) : Volume := fun p =>
  if p.tail? = some path then (v p).sync else v p

end Volume

/-! ## Requests -/

/-- The requests that say no more than whether they have succeeded. -/
inductive Step where
  | mkdir (path : Path)
  /-- Opening for writing: the file is emptied, or is there from now on. -/
  | create (path : Path)
  | write (path : Path) (bytes : List UInt8)
  | syncFile (path : Path)
  | rename (source target : Path)
  | openDir (path : Path)
  | syncDir (path : Path)
  | removeFile (path : Path)

inductive Ask where
  | step (step : Step)
  | isDir (path : Path)
  | read (path : Path)

abbrev Ask.Answer : Ask → Type
  | .step _ => Except IoError Unit
  | .isDir _ => Bool
  | .read _ => Except IoError (List UInt8)

/-- The interface of programs that work on files. -/
abbrev interface : Interface := ⟨Empty, Ask, Ask.Answer⟩

/-- What has to be there for a request. -/
def Step.needs : Step → List Path
  | .mkdir path | .create path => [path.tail]
  | .write path _ | .syncFile path | .openDir path | .syncDir path | .removeFile path => [path]
  | .rename source target => [source, target.tail]

/-- A request is done. -/
inductive Effect (v : Volume) : Step → Volume → Prop where
  | mkdir {path : Path} (parent : v.lookup path.tail = .ok .directory)
      (missing : v.lookup path = .error .notFound) : Effect v (.mkdir path) (v.makeDir path)
  | create {path : Path} (parent : v.lookup path.tail = .ok .directory)
      (missing : v.lookup path = .error .notFound) :
      Effect v (.create path)
        (Function.update v path ((v path).put (some (.file ⟨[], false⟩))))
  | truncate {path : Path} {f : File} (found : v.lookup path = .ok (.file f)) :
      Effect v (.create path)
        (Function.update v path ((v path).change (some (.file ⟨[], false⟩))))
  | write {path : Path} {f : File} (bytes : List UInt8) (found : v.lookup path = .ok (.file f)) :
      Effect v (.write path bytes)
        (Function.update v path ((v path).change (some (.file ⟨f.contents ++ bytes, false⟩))))
  | syncFile {path : Path} {f : File} (found : v.lookup path = .ok (.file f)) :
      Effect v (.syncFile path)
        (Function.update v path ((v path).change (some (.file ⟨f.contents, true⟩))))
  | rename {source target : Path} {f : File} (found : v.lookup source = .ok (.file f))
      (parent : v.lookup target.tail = .ok .directory)
      (free : v.lookup target ≠ .ok .directory) (other : source ≠ target) :
      Effect v (.rename source target)
        (Function.update (Function.update v source ((v source).put none)) target
          ((v target).put (some (.file f))))
  | openDir {path : Path} (found : v.lookup path = .ok .directory) : Effect v (.openDir path) v
  | syncDir {path : Path} (found : v.lookup path = .ok .directory) :
      Effect v (.syncDir path) (v.syncDir path)
  | removeFile {path : Path} {f : File} (found : v.lookup path = .ok (.file f)) :
      Effect v (.removeFile path) (Function.update v path ((v path).put none))

/-- What a request leaves that has failed, or has not been answered. -/
inductive Interrupted (v : Volume) : Step → Volume → Prop where
  | nothing (step : Step) : Interrupted v step v
  | whole {step : Step} {v' : Volume} : Effect v step v' → Interrupted v step v'
  | written {path : Path} {bytes written : List UInt8} {v' : Volume} : written <+: bytes →
      Effect v (.write path written) v' → Interrupted v (.write path bytes) v'

/-- Nothing but a write is done in part. -/
theorem Interrupted.whole_or_nothing {v v' : Volume} {step : Step}
    (interrupted : Interrupted v step v') (other : ∀ path bytes, step ≠ .write path bytes) :
    v' = v ∨ Effect v step v' := by
  cases interrupted with
  | nothing => exact .inl rfl
  | whole effect => exact .inr effect
  | written => exact absurd rfl (other _ _)

/-- Which answers there are, and what they leave. -/
def Answered (v : Volume) : (request : Ask) → request.Answer → Volume → Prop
  | .step step, .ok _, v' => Effect v step v'
  | .step step, .error e, v' =>
      Interrupted v step v' ∧
        (e.kind = .notFound → ∃ path ∈ step.needs, v.lookup path = .error .notFound)
  | .isDir path, answer, v' => (answer = true → v.lookup path = .ok .directory) ∧ v' = v
  | .read path, .ok bytes, v' =>
      (∃ f, v.lookup path = .ok (.file f) ∧ f.contents = bytes) ∧ v' = v
  | .read path, .error e, v' =>
      (v.lookup path = .error e.kind ∨ v.lookup path = .ok .directory ∧ e.kind = .other) ∧ v' = v

/-- A process on a volume. It may be killed while a request is under way. -/
def disk : Observer interface Volume where
  noted v _ := v
  sent v _ := v
  answered := Answered
  lost
    | v, .step step, v' => Interrupted v step v'
    | v, _, v' => v' = v

/-- A request, its answer, and what comes after. -/
theorem follows_exchange {v v₁ v' : Volume} {request : Ask} {answer : request.Answer}
    {events : List (Event interface)} (answered : Answered v request answer v₁)
    (rest : Service.Follows disk v₁ events v') :
    Service.Follows disk v (.sent request :: .answered request answer :: events) v' := by
  refine Service.Follows.sent (I := interface) (O := disk) request ?_
  exact Service.Follows.answered (O := disk) (s := v) answer answered rest

/-! ## Power loss -/

/-- What may become of what a name refers to. -/
inductive Survives : Option Node → Option Node → Prop where
  | nothing : Survives none none
  | directory : Survives (some .directory) (some .directory)
  | file (contents : List UInt8) :
      Survives (some (.file ⟨contents, true⟩)) (some (.file ⟨contents, true⟩))
  | unsynced (contents contents' : List UInt8) :
      Survives (some (.file ⟨contents, false⟩)) (some (.file ⟨contents', true⟩))

/-- The power is lost: what is left is durable. -/
def PowerLoss (v v' : Volume) : Prop :=
  ∀ path, ∃ x y, (v path).May x ∧ Survives x y ∧ v' path = ⟨y, []⟩

/-- Every name on the way to the path is a directory, and is one after a power loss. -/
def Anchored (v : Volume) : Path → Prop
  | [] => True
  | name :: dir => Anchored v dir ∧ ∀ x, (v (name :: dir)).May x → x = some .directory

/-! ## What is found -/

section Lookup

variable {v v' : Volume} {path dir : Path} {name : String}

theorem lookup_cons (found : v.lookup dir = .ok .directory) :
    v.lookup (name :: dir) = Volume.named (v (name :: dir)).now := by
  rw [Volume.lookup, found]

theorem lookup_of_child (child : path.tail? = some dir) (found : v.lookup dir = .ok .directory) :
    v.lookup path = Volume.named (v path).now := by
  cases path with
  | nil => cases child
  | cons name rest =>
      cases child
      exact lookup_cons found

/-- Names in a directory that is not there refer to nothing, whatever they are. -/
theorem lookup_cons_of_ne (other : v.lookup dir ≠ .ok .directory) :
    v.lookup (name :: dir) = match v.lookup dir with
      | .ok _ => .error .notADirectory
      | .error kind => .error kind := by
  rw [Volume.lookup]
  cases found : v.lookup dir with
  | error kind => rfl
  | ok node =>
      cases node with
      | directory => exact absurd found other
      | file f => rfl

theorem lookup_cons_ok {node : Node} (found : v.lookup (name :: dir) = .ok node) :
    v.lookup dir = .ok .directory ∧ (v (name :: dir)).now = some node := by
  by_cases parent : v.lookup dir = .ok .directory
  · rw [lookup_cons parent] at found
    refine ⟨parent, ?_⟩
    cases slot : (v (name :: dir)).now with
    | none =>
        rw [slot] at found
        cases found
    | some node' =>
        rw [slot] at found
        cases found
        rfl
  · rw [lookup_cons_of_ne parent] at found
    split at found <;> cases found

/-- **What is found depends on the names on the way**, and only on what they refer to now. -/
theorem lookup_congr (same : ∀ p, p <:+ path → p ≠ [] → (v' p).now = (v p).now) :
    v'.lookup path = v.lookup path := by
  induction path with
  | nil => rfl
  | cons name dir ih =>
      have parent := ih fun p suffix => same p (suffix.trans (List.suffix_cons name dir))
      have own := same (name :: dir) (List.suffix_refl _) (List.cons_ne_nil _ _)
      simp only [Volume.lookup, parent, own]

theorem tail?_ne_of_suffix (above : dir <:+ path) (nonempty : dir ≠ []) :
    dir.tail? ≠ some path := by
  intro child
  cases dir with
  | nil => exact nonempty rfl
  | cons name rest =>
      cases child
      have shorter := above.length_le
      simp only [List.length_cons] at shorter
      omega

/-- A name in a directory says nothing of the directory. -/
theorem lookup_update_of_child (child : path.tail? = some dir) (slot : Slot) :
    Volume.lookup (Function.update v path slot) dir = v.lookup dir := by
  refine lookup_congr fun p above nonempty => ?_
  rw [Function.update_of_ne]
  rintro rfl
  exact tail?_ne_of_suffix above nonempty child

/-- Below a place where nothing is found, nothing is. -/
theorem lookup_eq_error_of_suffix {kind : ErrorKind} (missing : v.lookup dir = .error kind)
    (below : dir <:+ path) : v.lookup path = .error kind := by
  induction path with
  | nil => rwa [List.suffix_nil.mp below] at missing
  | cons name rest ih =>
      rcases List.suffix_cons_iff.mp below with rfl | below
      · exact missing
      · rw [Volume.lookup, ih below]

theorem Anchored.lookup (anchored : Anchored v path) : v.lookup path = .ok .directory := by
  induction path with
  | nil => rfl
  | cons name dir ih =>
      rw [lookup_cons (ih anchored.1), anchored.2 _ (.inl rfl)]
      rfl

theorem Anchored.of_suffix (anchored : Anchored v path) (above : dir <:+ path) :
    Anchored v dir := by
  induction path with
  | nil => rwa [List.suffix_nil.mp above]
  | cons name rest ih =>
      rcases List.suffix_cons_iff.mp above with rfl | above
      · exact anchored
      · exact ih anchored.1 above

theorem anchored_congr (same : ∀ p, p <:+ path → p ≠ [] → v' p = v p) :
    Anchored v' path ↔ Anchored v path := by
  induction path with
  | nil => rfl
  | cons name dir ih =>
      have parent := ih fun p suffix => same p (suffix.trans (List.suffix_cons name dir))
      have own := same (name :: dir) (List.suffix_refl _) (List.cons_ne_nil _ _)
      simp only [Anchored, parent, own]

end Lookup

/-! ## New directories -/

section MakeDir

variable {v : Volume} {path dir : Path}

theorem lookup_makeDir_self (parent : v.lookup path.tail = .ok .directory)
    (missing : v.lookup path = .error .notFound) :
    (v.makeDir path).lookup path = .ok .directory := by
  cases path with
  | nil => cases missing
  | cons name rest =>
      -- The names above are those of the old volume.
      have above : (v.makeDir (name :: rest)).lookup rest = v.lookup rest := by
        refine lookup_congr fun p suffix nonempty => ?_
        have shorter := suffix.length_le
        have own : p ≠ name :: rest := fun same => by
          simp only [same, List.length_cons] at shorter
          omega
        have child : p.tail? ≠ some (name :: rest) :=
          tail?_ne_of_suffix (suffix.trans (List.suffix_cons name rest)) nonempty
        rw [Volume.makeDir, if_neg own, if_neg child]
      rw [lookup_cons (above.trans parent), Volume.makeDir, if_pos rfl]
      rfl

/-- A directory is made where there was nothing, and with nothing in it. -/
theorem lookup_makeDir (parent : v.lookup path.tail = .ok .directory)
    (missing : v.lookup path = .error .notFound) (below : path <:+ dir) (other : path ≠ dir) :
    (v.makeDir path).lookup dir = v.lookup dir := by
  rw [lookup_eq_error_of_suffix missing below]
  induction dir with
  | nil => exact absurd (List.suffix_nil.mp below) other
  | cons name rest ih =>
      rcases List.suffix_cons_iff.mp below with rfl | below
      · exact absurd rfl other
      · by_cases here : path = rest
        · subst here
          have fresh : (v.makeDir path) (name :: path) = .empty := by
            simp [Volume.makeDir]
          rw [lookup_cons (lookup_makeDir_self parent missing), fresh]
          rfl
        · rw [Volume.lookup, ih below here]

/-- A new directory is not durable. -/
theorem not_anchored_makeDir (parent : v.lookup path.tail = .ok .directory)
    (missing : v.lookup path = .error .notFound) : ¬Anchored (v.makeDir path) path := by
  intro anchored
  cases path with
  | nil => cases missing
  | cons name rest =>
      have parent : v.lookup rest = .ok .directory := parent
      have nothing : (v (name :: rest)).now = none := by
        rw [lookup_cons parent] at missing
        cases slot : (v (name :: rest)).now with
        | none => rfl
        | some node =>
            rw [slot] at missing
            cases missing
      have gone : (v.makeDir (name :: rest) (name :: rest)).May none := by
        rw [Volume.makeDir, if_pos rfl, Slot.may_put]
        exact .inr (.inl nothing.symm)
      cases anchored.2 _ gone

end MakeDir

/-! ## What a power loss leaves -/

section Loss

variable {v v' : Volume} {path : Path}

/-- **Anchored directories survive.** -/
theorem PowerLoss.anchored (loss : PowerLoss v v') (anchored : Anchored v path) :
    Anchored v' path := by
  induction path with
  | nil => trivial
  | cons name dir ih =>
      refine ⟨ih anchored.1, fun x may => ?_⟩
      obtain ⟨y, z, was, survives, left⟩ := loss (name :: dir)
      rw [left] at may
      obtain rfl := anchored.2 y was
      cases survives
      rcases may with rfl | member
      · rfl
      · cases member

/-- What is left, when nothing is lost that need not be. -/
def survivor : Option Node → Option Node
  | some (.file f) => some (.file ⟨f.contents, true⟩)
  | x => x

theorem survives_survivor (x : Option Node) : Survives x (survivor x) := by
  cases x with
  | none => exact .nothing
  | some node =>
      cases node with
      | directory => exact .directory
      | file f =>
          obtain ⟨contents, synced⟩ := f
          cases synced with
          | false => exact .unsynced contents contents
          | true => exact .file contents

/-- **Other directories may not**: the power can be lost so that there is no directory. -/
theorem exists_powerLoss (loose : ¬Anchored v path) :
    ∃ v', PowerLoss v v' ∧ v'.lookup path ≠ .ok .directory := by
  induction path with
  | nil => exact absurd trivial loose
  | cons name dir ih =>
      by_cases parent : Anchored v dir
      · obtain ⟨x, may, other⟩ : ∃ x, (v (name :: dir)).May x ∧ x ≠ some .directory := by
          by_contra all
          exact loose ⟨parent, fun x may => by_contra fun other => all ⟨x, may, other⟩⟩
        refine ⟨fun p => ⟨survivor (if p = name :: dir then x else (v p).now), []⟩, fun p => ?_, ?_⟩
        · refine ⟨_, _, ?_, survives_survivor _, rfl⟩
          split
          · next own =>
              subst own
              exact may
          · exact .inl rfl
        · intro found
          have slot := (lookup_cons_ok found).2
          rw [if_pos rfl] at slot
          cases x with
          | none => cases slot
          | some node =>
              cases node with
              | directory => exact other rfl
              | file f => cases slot
      · obtain ⟨v', loss, other⟩ := ih parent
        exact ⟨v', loss, fun found => other (lookup_cons_ok found).1⟩

end Loss

end Files
end ArkadeEscrow
