import LlmAudit.Text.Loose
import LlmAudit.Text.Search
import LlmAudit.Text.Utf8
import LlmAudit.Text.Word

/-!
# Packages and their registries

This module formalizes the sanity check and the existence checker of the dependency guard in Section
15 of the specification.

A package is known by the world it belongs to and its name. A registry is asked for a package at an
address of its own, and only for names that a package can have.

## Main definitions

* `Package.isSaneName` — the names that a package can have.
* `Package.address` — where a registry is asked.
* `Registry`, `Registry.knows`, `Registry.admits` — what registries answer.
-/

namespace LlmAudit

/-- The worlds that packages belong to. -/
inductive Ecosystem where
  /-- The packages that `package.json` lists. -/
  | npm
  /-- The packages that `requirements.txt` lists. -/
  | pypi
  deriving DecidableEq

/-- The name of an ecosystem. -/
def Ecosystem.name : Ecosystem → String
  | .npm => "npm"
  | .pypi => "pypi"

/-- A package. -/
structure Package where
  /-- The world it belongs to. -/
  ecosystem : Ecosystem
  /-- Its name. -/
  name : String
  deriving DecidableEq

namespace Package

/-! ### Names -/

/-- A character of a package name. -/
def isNameChar (c : Char) : Bool :=
  Text.isAsciiNameChar ['.', '_', '-'] c

/-- The greatest length of a name without its scope. -/
def longestName : Nat := 214

/-- A name without a scope. -/
def isBareName (s : List Char) : Bool :=
  !s.isEmpty && decide (s.length ≤ longestName) && s.all isNameChar

/-- A name with or without a scope. -/
def isScopedName (s : List Char) : Bool :=
  match s with
  | '@' :: rest =>
    let scope := rest.takeWhile isNameChar
    match rest.dropWhile isNameChar with
    | '/' :: bare => !scope.isEmpty && isBareName bare
    | _ => false
  | _ => isBareName s

/-- Whether a package can have a name; a line feed may stand at its end. -/
def isSaneName (name : String) : Bool :=
  let s := name.toList
  isScopedName s || (s.getLast? == some '\n' && isScopedName s.dropLast)

/-! ### Addresses -/

/-- Two upper-case hexadecimal digits of a byte. -/
def hexPair (b : UInt8) : List Char :=
  let digits := (Nat.toDigits 16 b.toNat).map Char.toUpper
  List.replicate (2 - digits.length) '0' ++ digits

/-- A character that stands for itself in every address. -/
def isPlainChar (c : Char) : Bool :=
  Text.isAsciiNameChar ['_', '.', '-', '~'] c

/-- A text inside an address: all but plain characters and some further ones are written byte by
byte. -/
def percentEncode (further : List Char) (s : List Char) : List Char :=
  s.flatMap fun c =>
    if isPlainChar c || further.contains c then [c]
    else (String.utf8EncodeChar c).flatMap fun b => '%' :: hexPair b

/-- The address at which a registry is asked for a package. -/
def address (p : Package) : String :=
  match p.ecosystem with
  | .npm =>
    "https://registry.npmjs.org/" ++ String.ofList (percentEncode ['@'] p.name.toList)
  | .pypi =>
    "https://pypi.org/pypi/" ++ String.ofList (percentEncode ['/'] p.name.toList) ++ "/json"

/-- The addresses that are asked for a package: none for a name that no package can have. -/
def requests (p : Package) : List String :=
  if isSaneName p.name then [p.address] else []

end Package

/-! ### Registries -/

/-- What comes back from an address. -/
inductive Reply where
  /-- An answer with a status. -/
  | status (code : Int)
  /-- No answer. -/
  | unreachable
  deriving DecidableEq

/-- The replies of all addresses. -/
abbrev Registry := String → Reply

/-- Whether a reply lets a package pass: a status of success, or no answer, so that an outage
stops nobody. -/
def Reply.passes : Reply → Bool
  | .status code => decide (200 ≤ code ∧ code ≤ 299)
  | .unreachable => true

/-- Whether a registry knows a package. -/
def Registry.knows (registry : Registry) (p : Package) : Bool :=
  Package.isSaneName p.name && (registry p.address).passes

/-- Whether a text names a package that a registry knows; one that holds half a pair does not. -/
def Registry.admits (registry : Registry) (ecosystem : Ecosystem) (name : LooseText) : Bool :=
  name.text?.any fun s => registry.knows ⟨ecosystem, s⟩

/-- The name under which registries are asked. -/
def Registry.agent : String := "secureai-scan/0.1.0"

end LlmAudit
