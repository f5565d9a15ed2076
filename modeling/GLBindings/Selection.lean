import GLBindings.Consolidation
import GLBindings.Text.LetterCase

namespace GLBindings

/-!
# Selection — what a user asks for

* `Language` — the languages that bindings are made for.
* `KnownVersions` — the versions of each api that may be selected.
* `KnownVersions.standard` — the published versions.
* `Selection.resolve` — checks an api and a version against a table.
* `Selection.consolidate` — the names of a selection.
-/

/-! ### Languages -/

/-- A language that bindings are made for. -/
inductive Language where
  | c
  | cpp
  deriving Repr, DecidableEq, Inhabited

namespace Language

/-- The name of a language. -/
def text : Language → String
  | .c => "c"
  | .cpp => "cpp"

instance : ToString Language := ⟨text⟩

/-- A name that no language has; kept in lower case. -/
structure Unknown where
  name : String
  deriving Repr, DecidableEq

/-- The wording of the failure. -/
def Unknown.message (e : Unknown) : String :=
  s!"unknown language '{e.name}', expected 'c' or 'cpp'"

/-- The language that a user names, in letters of either case. -/
def parse? (s : String) : Except Unknown Language :=
  match Text.lower s with
  | "c" => .ok .c
  | "cpp" | "c++" | "cxx" => .ok .cpp
  | other => .error ⟨other⟩

/-- The language that a configuration file names. -/
def ofConfigName? : String → Option Language
  | "c" => some .c
  | "cpp" | "c++" => some .cpp
  | _ => none

end Language

/-! ### Targets that are known to exist -/

/-- The versions of each api that may be selected, in order. -/
abbrev KnownVersions := Index (List Version)

namespace KnownVersions

/-- The versions `major.0` to `major.last`. -/
def minors (major last : Nat) : List Version :=
  (List.range (last + 1)).map fun minor => .ofPair (UInt32.ofNat major) (UInt32.ofNat minor)

/-- The published versions. -/
def standard : KnownVersions := ⟨[
  ("gl", minors 1 5 ++ minors 2 1 ++ minors 3 3 ++ minors 4 6),
  ("gles1", minors 1 0),
  ("gles2", minors 2 0 ++ minors 3 2),
  ("glsc2", minors 2 0)]⟩

end KnownVersions

/-- A target that is known to exist. -/
structure Selection where
  api : String
  version : Version
  /-- The profile that blocks are filtered by. -/
  profile : Option String
  deriving Inhabited

namespace Selection

/-- The error for a version that is not in the list of an api. -/
def unknownVersion (api written : String) (accepted : List Version) : RegistryError :=
  .unknown .version written
    (s!"versions of {api}: " ++ ", ".intercalate (accepted.map Version.toString))

/-- Checks an api and a version as written against a table. An empty profile counts as none. -/
def resolve (known : KnownVersions) (api version : String) (profile : Option String) :
    Except RegistryError Selection :=
  match known.find? api with
  | none => .error (.unknown .api api ("known apis: " ++ ", ".intercalate known.names))
  | some accepted =>
    match Version.parse? version with
    | .error _ => .error (unknownVersion api version accepted)
    | .ok v =>
      if accepted.contains v then .ok ⟨api, v, profile.filter (· ≠ "")⟩
      else .error (unknownVersion api version accepted)

/-- The selection in words, such as `gl 3.3 core`. -/
def label (s : Selection) : String :=
  match s.profile with
  | some profile => s!"{s.api} {s.version} {profile}"
  | none => s!"{s.api} {s.version}"

/-- The names of a selection. -/
def consolidate (s : Selection) (c : Catalog) : Except RegistryError NameSelection :=
  c.consolidate s.api s.version s.profile

end Selection

end GLBindings
