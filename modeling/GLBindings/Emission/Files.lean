import GLBindings.Emission.Declarations
import GLBindings.Emission.GeneratedFile

namespace GLBindings

/-!
# Files — the text of generated files

A file says what it declares and makes its code from that. A section without declarations is left
out.

* `CHeader` — the header for C, the file `include/<stem>/gl.h`.
* `CLoader` — the source that loads the commands, the file `src/gl.c`.
* `CppHeader` — the header for C++, the file `include/<stem>/gl.hpp`.
-/

/-- A section with its title, unless it is empty. -/
def section? (title : String) (body : List Fragment) (isEmpty : Bool) : List Fragment :=
  if isEmpty then [] else [.blank, .comment title] ++ body

/-- Lines of code. -/
def codeLines (lines : List String) : List Fragment :=
  lines.map .line

/-- Declarations with an empty line between any two. -/
def spaced (declarations : List (List Fragment)) : List Fragment :=
  [Fragment.blank].intercalate declarations

/-! ### The header for C -/

/-- The header for C. -/
structure CHeader where
  stem : Stem
  /-- The selection in words. -/
  label : String
  /-- The definitions of types. -/
  types : List String
  defines : List Define
  pointers : List Pointer
  deriving Repr, DecidableEq

namespace CHeader

/-- The guard, and what keeps the headers of the system out. -/
def opening (h : CHeader) : List Fragment :=
  codeLines ["#pragma once"] ++ [.blank]
    ++ codeLines [s!"#ifndef {h.stem.headerGuard}", s!"#define {h.stem.headerGuard}"] ++ [.blank]
    ++ codeLines [
      "#if defined(__gl_h_) || defined(__GL_H__)",
      s!"#error \"include <{h.stem}/gl.h> instead of the system OpenGL header\"",
      "#endif"] ++ [.blank]
    ++ codeLines ["#define __gl_h_", "#define __GL_H__"] ++ [.blank]

/-- The calling convention of the platform, and the linkage for C++. -/
def linkage : List Fragment :=
  codeLines [
      "#if defined(_WIN32)",
      "#define GLAPI",
      "#define GLCALLCONV __stdcall",
      "#else",
      "#define GLAPI",
      "#define GLCALLCONV",
      "#endif"] ++ [.blank]
    ++ codeLines ["#ifdef __cplusplus", "extern \"C\" \x7b", "#endif"] ++ [.blank]

/-- The declarations of the loader. -/
def loader (h : CHeader) : List Fragment :=
  [.comment "loader declarations"] ++ codeLines [
    s!"typedef void (*{h.stem.procType})(void);",
    s!"typedef {h.stem.procType} (*{h.stem.lookupType})(const char *name);",
    s!"extern {h.stem.loadSignature};"]

/-- The end of the linkage and of the guard. -/
def closing (h : CHeader) : List Fragment :=
  [.blank] ++ codeLines ["#ifdef __cplusplus", "\x7d", "#endif"] ++ [.blank]
    ++ codeLines [s!"#endif /* {h.stem.headerGuard} */"]

/-- The code of the header. -/
def fragments (h : CHeader) : List Fragment :=
  h.opening ++ linkage ++ h.loader
    ++ section? "type definitions" (h.types.flatMap fun t => codeLines (Text.lines t))
      h.types.isEmpty
    ++ section? s!"{h.label} constants" (h.defines.flatMap Define.fragments) h.defines.isEmpty
    ++ section? s!"{h.label} commands" (h.pointers.flatMap Pointer.fragments) h.pointers.isEmpty
    ++ h.closing

/-- The file of the header. -/
def file (h : CHeader) : GeneratedFile :=
  .source ["include", h.stem, "gl.h"] (Fragment.render h.fragments)

end CHeader

/-! ### The loader -/

/-- The source that loads the commands. -/
structure CLoader where
  stem : Stem
  pointers : List Pointer
  deriving Repr, DecidableEq

namespace CLoader

/-- The definitions of the pointers, if there are any. -/
def definitions (l : CLoader) : List Fragment :=
  if l.pointers.isEmpty then []
  else codeLines (l.pointers.map Pointer.definition) ++ [.blank]

/-- The function that loads all commands. -/
def loadFunction (l : CLoader) : Fragment :=
  .block s!"{l.stem.loadSignature} \x7b"
    (codeLines (l.pointers.map fun p => p.loadStatement Stem.lookupParam)) (some "\x7d")

/-- The code of the source. -/
def fragments (l : CLoader) : List Fragment :=
  [.line s!"#include <{l.stem}/gl.h>", .blank] ++ l.definitions ++ [l.loadFunction]

/-- The file of the source. -/
def file (l : CLoader) : GeneratedFile :=
  .source ["src", "gl.c"] (Fragment.render l.fragments)

end CLoader

/-! ### The header for C++

It includes the header for C and puts enumerations and inline functions into a namespace. -/

/-- The header for C++. -/
structure CppHeader where
  stem : Stem
  /-- The selection in words. -/
  label : String
  classes : List EnumClass
  wrappers : List Wrapper
  deriving Repr, DecidableEq

namespace CppHeader

/-- The guard, the header for C, and the start of the namespace. -/
def opening (h : CppHeader) : List Fragment :=
  [.line "#pragma once", .blank,
    .line s!"#ifndef {h.stem.wrapperGuard}", .line s!"#define {h.stem.wrapperGuard}", .blank,
    .line s!"#include <{h.stem}/gl.h>", .blank,
    .line "namespace gl \x7b"]

/-- The end of the namespace and of the guard. -/
def closing (h : CppHeader) : List Fragment :=
  [.blank, .line "\x7d // namespace gl", .blank, .line s!"#endif /* {h.stem.wrapperGuard} */"]

/-- The code of the header. -/
def fragments (h : CppHeader) : List Fragment :=
  h.opening
    ++ section? s!"{h.label} enum groups" (spaced (h.classes.map EnumClass.fragments))
      h.classes.isEmpty
    ++ section? s!"{h.label} commands" (spaced (h.wrappers.map Wrapper.fragments))
      h.wrappers.isEmpty
    ++ h.closing

/-- The file of the header. -/
def file (h : CppHeader) : GeneratedFile :=
  .source ["include", h.stem, "gl.hpp"] (Fragment.render h.fragments)

end CppHeader

end GLBindings
