import GLBindings.Text.Blank
import GLBindings.Text.LetterCase

namespace GLBindings

/-!
# Naming — how names are spelled in code

* `Naming.pascalCase` — `ProgramPipeline` for `program pipeline`.
* `Naming.upperSnake` — a text made a macro name.
* `Naming.stripNamespace` — a name without the namespace in front of it.
* `Naming.Convention` — the names that a language gives to commands, constants and parameters.
* `CppNaming.convention` — those of C++.
* `Code.declaration` — a variable of C with its type, such as `const GLchar **string`.
* `Code.pointerTypeName` — the type of the pointer to a command.
* `Stem` — the name of the bindings, with the names that are made from it.
-/

namespace Naming

open GLBindings.Text

/-- Words between spaces and underscores, each with a capital, joined. -/
def pascalCase (s : String) : String :=
  let parts := splitAt (fun c => c == ' ' || c == '_') s.toList
  String.ofList (parts.flatMap capitalizeChars)

/-- Is the character a letter or digit of ASCII? -/
def isAsciiAlphanumeric (c : Char) : Bool :=
  c.isAlphanum

/-- Capital letters and digits of ASCII; every other character becomes an underscore. -/
def upperSnake (s : String) : String :=
  String.ofList (s.toList.map fun c => if isAsciiAlphanumeric c then c.toUpper else '_')

/-! ### Namespaces -/

/-- What follows a namespace in front of `name`, where ASCII letters match in either case. -/
def afterNamespace? : List Char → List Char → Option (List Char)
  | [], rest => some rest
  | _ :: _, [] => none
  | n :: ns, c :: cs => if n.toLower = c.toLower then afterNamespace? ns cs else none

/-- A name without its namespace and the underscores behind that. A name that does not carry the
namespace, or consists of it, stays as it is. -/
def stripChars (name space : List Char) : List Char :=
  match space, afterNamespace? space name with
  | _ :: _, some (c :: cs) => (c :: cs).dropWhile (· == '_')
  | _, _ => name

/-- A name without its namespace and the underscores behind that. -/
def stripNamespace (name space : String) : String :=
  String.ofList (stripChars name.toList space.toList)

/-! ### Conventions of a language -/

/-- The names that a language gives to what a registry declares. -/
structure Convention where
  /-- The function for a command. -/
  functionOf : String → String
  /-- The enumerator for a constant. -/
  enumeratorOf : String → String
  /-- The words of the language. -/
  reserved : List String
  /-- What a word of the language is changed to. -/
  escape : String → String

namespace Convention

/-- Is the name a word of the language? -/
def isReserved (v : Convention) (name : String) : Bool :=
  v.reserved.contains name

/-- The name, changed if it is a word of the language. -/
def safeName (v : Convention) (name : String) : String :=
  if v.isReserved name then v.escape name else name

/-- The function for a command. -/
def functionName (v : Convention) (command : String) : String :=
  v.safeName (v.functionOf command)

/-- The enumerator for a constant. -/
def enumeratorName (v : Convention) (constant : String) : String :=
  v.safeName (v.enumeratorOf constant)

/-- The parameter for a parameter of a command. -/
def paramName (v : Convention) (name : String) : String :=
  v.safeName name

end Convention

end Naming

/-! ### Names of C++

`glBindTexture` becomes `bindTexture`, `GL_TEXTURE_2D` becomes `eTEXTURE_2D`, and a name that is
a word of the language gets an underscore behind it. -/

namespace CppNaming

/-- The words of C++ that cannot be names. -/
def keywords : List String := [
  "alignas", "alignof", "and", "asm", "auto", "bool", "break", "case", "catch", "char",
  "class", "const", "constexpr", "continue", "default", "delete", "do", "double", "else",
  "enum", "explicit", "export", "extern", "false", "float", "for", "friend", "goto", "if",
  "inline", "int", "long", "mutable", "namespace", "new", "noexcept", "not", "nullptr",
  "operator", "or", "private", "protected", "public", "register", "return", "short",
  "signed", "sizeof", "static", "struct", "switch", "template", "this", "throw", "true",
  "try", "typedef", "typename", "union", "unsigned", "using", "virtual", "void", "volatile",
  "while", "xor"]

/-- The function for a command. -/
def functionOf (command : String) : String :=
  Text.decapitalize (Naming.stripNamespace command "gl")

/-- The enumerator for a constant. -/
def enumeratorOf (constant : String) : String :=
  "e" ++ Naming.stripNamespace constant "GL"

/-- The names of C++. -/
def convention : Naming.Convention where
  functionOf := functionOf
  enumeratorOf := enumeratorOf
  reserved := keywords
  escape name := name ++ "_"

end CppNaming

/-! ### Declarations of C -/

namespace Code

/-- Asterisks. -/
def stars (n : Nat) : String :=
  String.ofList (List.replicate n '*')

/-- `const ` for a constant. -/
def constness (isConst : Bool) : String :=
  if isConst then "const " else ""

/-- A variable with its type. -/
def declaration (isConst : Bool) (base : String) (indirection : Nat) (name : String) : String :=
  constness isConst ++ base ++ " " ++ stars indirection ++ name

/-- The type of the pointer to a command: `PFNGLGETSTRINGPROC` for `glGetString`. -/
def pointerTypeName (command : String) : String :=
  s!"PFN{Text.upper command}PROC"

end Code

/-! ### The name of the bindings

It names the include directory as it is written. In macros and types it stands in capitals. -/

/-- The name of the bindings. -/
abbrev Stem := String

namespace Stem

/-- The stem when none is chosen. -/
def default : Stem := "glgen"

/-- The guard of the C header. -/
def headerGuard (s : Stem) : String := Naming.upperSnake s ++ "_GL_H"

/-- The guard of the C++ header. -/
def wrapperGuard (s : Stem) : String := Naming.upperSnake s ++ "_GL_HPP"

/-- The type of a command's address. -/
def procType (s : Stem) : String := Naming.upperSnake s ++ "_PROC"

/-- The type of the function that looks a command up. -/
def lookupType (s : Stem) : String := Naming.upperSnake s ++ "_GETPROCADDRESS"

/-- The function that loads all commands. -/
def loadFunction (s : Stem) : String := s ++ "_load_functions"

/-- The name of the load function's parameter. -/
def lookupParam : String := "getProcAddress"

/-- The load function without what ends its declaration or begins its body. -/
def loadSignature (s : Stem) : String :=
  s!"void {s.loadFunction}({s.lookupType} {lookupParam})"

/-- What is written between angle brackets to include a header. -/
def includeName (s : Stem) (header : String) : String := s!"{s}/{header}"

end Stem

end GLBindings
